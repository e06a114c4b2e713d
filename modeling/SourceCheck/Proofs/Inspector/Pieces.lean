import SourceCheck.Proofs.Inspector.Agreement

/-!
# Inspector — the pieces of code

Outside comments and strings the highlighter takes a whole run of word characters and points in one
piece, and any other character by itself.

* `Chunk a w b role`: between `a` and `b`, the characters `w` are such a piece.
* `Chunk.exists_piece`: so they are one in the pieces of their line.
* `roleAt`, `Chunk.roleAt`: so every character of them has the role of the piece.
-/

namespace SourceCheck

open Position (origin)
open Text (isLineEnd)

namespace Highlight

/-- What is one piece of code: a run as long as it can be, or one character that is in no run. -/
inductive Chunk (a : List Char) : List Char → List Char → Role → Prop where
  | run {w b : List Char} (hn : w ≠ []) (hw : ∀ c ∈ w, isRunPart c = true)
      (ha : ∀ c ∈ a.getLast?, isRunPart c = false) (hb : ∀ c ∈ b.head?, isRunPart c = false) :
      Chunk a w b (.ofWord w)
  | single {c : Char} {b : List Char} (hc : isRunPart c = false) : Chunk a [c] b (.ofChar c)

/-! ### One cut -/

/-- A run is as long as its characters go on. -/
theorem span_of_bound {w b : List Char} (hw : ∀ c ∈ w, isRunPart c = true)
    (hb : ∀ c ∈ b.head?, isRunPart c = false) :
    (w ++ b).takeWhile isRunPart = w ∧ (w ++ b).dropWhile isRunPart = b := by
  rw [List.takeWhile_append_of_pos hw, List.dropWhile_append_of_pos hw]
  cases b with
  | nil => simp
  | cons c b => simp [hb c rfl]

/-- Only code is cut with the tone of code. -/
theorem plain_of_tone {inside : Bool} {c : Char} {cs : List Char}
    (h : (cut inside c cs).piece.role.tone = .code) : inside = false ∧ Plain c cs := by
  have hcomment : ∀ opening cs, (cutComment opening cs).piece.role = .comment := by
    intro opening cs
    rw [cutComment]
    split <;> rfl
  cases inside with
  | true =>
      rw [cut, if_pos rfl, hcomment] at h
      cases h
  | false =>
      refine ⟨rfl, ?_, ?_, ?_⟩
      · rintro rfl
        simp [cut, cutCode, Role.tone] at h
      · rintro rfl
        simp [cut, cutCode, Role.tone] at h
      · rintro rfl hs
        have hcut : cut false '/' cs = cutComment ['/', '*'] cs.tail := by simp [cut, cutCode, hs]
        rw [hcut, hcomment] at h
        cases h

namespace Chunk

variable {a w b : List Char} {role : Role}

theorem ne_nil (h : Chunk a w b role) : w ≠ [] := by
  cases h with
  | run hn => exact hn
  | single => exact List.cons_ne_nil _ _

/-- Only the two characters next to it matter. -/
theorem of_suffix {a' b' : List Char} (h : Chunk a w b role) (ha : a' <:+ a)
    (hb : ∀ c ∈ b'.head?, c ∈ b.head?) : Chunk a' w b' role := by
  cases h with
  | single hc => exact .single hc
  | run hn hw hl hr =>
      refine .run hn hw (fun c hc => hl c ?_) (fun c hc => hr c (hb c hc))
      obtain ⟨x, rfl⟩ := ha
      have hne : a' ≠ [] := by
        rintro rfl
        cases hc
      rwa [List.getLast?_append_of_ne_nil _ hne]

/-- A chunk that the code begins with is cut off. -/
theorem cut_eq {c : Char} {cs : List Char} (h : Chunk [] w b role) (hcs : c :: cs = w ++ b)
    (hp : Plain c cs) : cut false c cs = ⟨⟨w, role⟩, b, false⟩ := by
  rw [cut_plain hp]
  cases h with
  | @single d b hd =>
      obtain ⟨rfl, rfl⟩ := List.cons.inj hcs
      rw [hd]
      rfl
  | @run w b hn hw _ hb =>
      obtain ⟨d, w, rfl⟩ := List.exists_cons_of_ne_nil hn
      rw [List.cons_append] at hcs
      obtain ⟨rfl, rfl⟩ := List.cons.inj hcs
      have hspan := span_of_bound (fun e he => hw e (List.mem_cons_of_mem c he)) hb
      rw [if_pos (hw c List.mem_cons_self), hspan.1, hspan.2]

/-- A chunk does not begin within a piece of code. -/
theorem not_within {c d : Char} {cs m : List Char} (h : Chunk a w b role) (ha : a ≠ [])
    (hp : Plain c cs) (hw : w.head? = some d)
    (hpiece : (cut false c cs).piece.text = a ++ d :: m) : False := by
  rw [cut_plain hp] at hpiece
  split at hpiece
  · -- all characters of the piece belong to the run, the one in front of the chunk too
    next hc =>
      have hparts : ∀ e ∈ a ++ d :: m, isRunPart e = true := by
        rw [← hpiece]
        simp only [List.mem_cons, forall_eq_or_imp]
        exact ⟨hc, fun e he => List.mem_takeWhile_imp he⟩
      cases h with
      | single hd =>
          cases hw
          have hpart := hparts d (by simp)
          rw [hd] at hpart
          cases hpart
      | run _ _ hl _ =>
          have hlast := hl _ (List.getLast?_eq_some_getLast ha)
          rw [hparts _ (List.mem_append_left _ (List.getLast_mem ha))] at hlast
          cases hlast
  · have hlen := congrArg List.length hpiece
    have hpos := List.length_pos_of_ne_nil ha
    simp at hlen
    omega

/-! ### The pieces of a line -/

/-- **A chunk is a piece** of its line, if it is outside comments and strings. -/
theorem exists_piece {inside : Bool} {l : List Char} (h : Chunk a w b role) (hl : l = a ++ (w ++ b))
    (ht : (tones inside l).1[a.length]? = some .code) :
    ∃ front back, (line inside l).1 = front ++ ⟨w, role⟩ :: back ∧
      front.flatMap Piece.text = a := by
  obtain ⟨d, w', rfl⟩ := List.exists_cons_of_ne_nil h.ne_nil
  fun_induction line inside l generalizing a with
  | case1 => simp at hl
  | case2 inside c cs k =>
      rename_i ih
      have happ : k.piece.text ++ k.rest = a ++ (d :: w' ++ b) := (cut_append inside c cs).trans hl
      rw [tones_cons, behind] at ht
      rw [Prod.map_fst]
      rcases Text.mem_or_mem_of_append happ with ⟨m, hm⟩ | ⟨a', rfl, hrest⟩
      · -- the chunk begins in the first piece, so that is code
        have hlt : a.length < k.piece.text.length := by simp [hm]
        have htone : k.piece.role.tone = .code := by
          rw [List.getElem?_append_left (by simpa [Piece.tones] using hlt), Piece.tones,
            List.getElem?_replicate_of_lt hlt] at ht
          exact Option.some.inj ht
        obtain ⟨rfl, hp⟩ := plain_of_tone htone
        by_cases ha : a = []
        · subst ha
          have hk : k = ⟨⟨d :: w', role⟩, b, false⟩ := h.cut_eq hl hp
          exact ⟨[], _, by rw [hk]; rfl, rfl⟩
        · exact (h.not_within ha hp rfl hm).elim
      · have htone : (tones k.inside k.rest).1[a'.length]? = some .code := by
          rw [List.getElem?_append_right (by simp [Piece.tones, k])] at ht
          simpa [Piece.tones, k] using ht
        have h' : Chunk a' (d :: w') b role := h.of_suffix (List.suffix_append _ a') fun e he => he
        obtain ⟨front, back, hpieces, htext⟩ := ih htone h' hrest
        refine ⟨k.piece :: front, back, ?_, ?_⟩
        · rw [hpieces, List.cons_append]
        · rw [List.flatMap_cons, htext]

end Chunk

/-! ### The role of a character -/

/-- The role of the character at a position of the text. -/
def roleAt (text : List Char) (p : Position) : Option Role :=
  ((lines false (Text.lines text))[p.line - 1]?).bind fun pieces =>
    ((pieces.flatMap Piece.characters)[p.column - 1]?).map Prod.snd

theorem roleAt_line {text l : List Char} {n : Nat} (hl : (Text.lines text)[n]? = some l) (j : Nat) :
    roleAt text ⟨n + 1, j + 1⟩ =
      (((line (insideBefore (Text.lines text) n) l).1.flatMap
        Piece.characters)[j]?).map Prod.snd := by
  rw [roleAt, Nat.add_sub_cancel, getElem?_lines hl]
  rfl

/-- Every character of a text has a role, and the tone of that role. -/
theorem exists_roleAt {text a b : List Char} {c : Char} (htext : text = a ++ ([c] ++ b))
    (hc : isLineEnd c = false) :
    ∃ role, roleAt text (origin.after a) = some role ∧
      toneAt (paint false text) (origin.after a) = some role.tone := by
  obtain ⟨n, a', -, hplace, hline⟩ :=
    Text.line_of_place (List.cons_ne_nil c []) (isLineEnd_of_mem_singleton hc) a b
  rw [← htext] at hline
  have hget : (a' ++ ([c] ++ Text.firstLine b))[a'.length]? = some c := by simp
  obtain ⟨role, hchars, htone⟩ := @exists_role (insideBefore (Text.lines text) n) _ _ _ hget
  rw [hplace, roleAt_line hline, toneAt_paint hline, hchars]
  exact ⟨role, rfl, htone⟩

/-- A piece gives its role to each of its characters. -/
theorem characters_of_piece {front back : List Piece} {m d : List Char} {c : Char} {role : Role} :
    ((front ++ ⟨m ++ c :: d, role⟩ :: back).flatMap Piece.characters)[
      (front.flatMap Piece.text).length + m.length]? = some (c, role) := by
  have hlen : (front.flatMap Piece.text).length = (front.flatMap Piece.characters).length := by
    simp [List.length_flatMap, Piece.characters]
  rw [List.flatMap_append, hlen, List.getElem?_append_right (Nat.le_add_right _ _),
    Nat.add_sub_cancel_left]
  simp [Piece.characters]

/-- **The role of a chunk** is that of each of its characters. -/
theorem Chunk.roleAt {text front w rest : List Char} {role : Role} (h : Chunk front w rest role)
    (htext : text = front ++ (w ++ rest)) (hw : ∀ c ∈ w, isLineEnd c = false)
    (ht : toneAt (paint false text) (origin.after front) = some .code) {m d : List Char} {c : Char}
    (hm : w = m ++ c :: d) : Highlight.roleAt text (origin.after (front ++ m)) = some role := by
  obtain ⟨n, a, ha, hplace, hline⟩ := Text.line_of_place h.ne_nil hw front rest
  rw [← htext] at hline
  rw [hplace, toneAt_paint hline] at ht
  have h' : Chunk a w (Text.firstLine rest) role :=
    h.of_suffix ha fun e he => Text.head?_firstLine he
  obtain ⟨before, back, hpieces, rfl⟩ := h'.exists_piece rfl ht
  have hnl : '\n' ∉ m := fun hmem =>
    absurd (hw _ (hm ▸ List.mem_append_left _ hmem)) (by decide)
  rw [Position.after_append, hplace, Position.after_of_newline_notMem hnl, Nat.add_right_comm,
    roleAt_line hline, hpieces, hm, characters_of_piece]
  rfl

end Highlight

end SourceCheck
