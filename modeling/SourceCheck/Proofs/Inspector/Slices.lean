import SourceCheck.Proofs.Inspector.Agreement

/-!
# Inspector — the pieces of a line are slices of it

Highlighting cuts a line into pieces from its front.  Seen from the whole line, each piece is a
slice between two indices.

* `closing?`: the end of a block comment, looked for by index; `map_snd_splitComment?` says that a
  text is split there.
* `stopAt`: the index at which the piece that begins at some index ends, worked out by what the
  piece is.
* `rest_cut`: it is within the line, and what is left of the line behind the piece begins there.
* `line_slices`: so the pieces are slices one behind the other, none of them empty, and together
  they are the line.
-/

namespace SourceCheck.Highlight

variable {chars : List Char} {i : Nat}

/-! ### The end of a block comment -/

/-- The index of the star of the first `*/` at or behind an index. -/
def closing? (chars : List Char) (i : Nat) : Option Nat :=
  (List.range' i (chars.length - 1 - i)).find? fun j =>
    chars[j]? == some '*' && chars[j + 1]? == some '/'

/-- One character is no end of a comment. -/
theorem closing?_of_le (h : chars.length ≤ i + 1) : closing? chars i = none := by
  have hnone : chars.length - 1 - i = 0 := by omega
  rw [closing?, hnone]
  rfl

/-- The first index is tried first. -/
theorem closing?_of_lt (h : i + 1 < chars.length) :
    closing? chars i =
      if chars[i]? = some '*' ∧ chars[i + 1]? = some '/' then some i
      else closing? chars (i + 1) := by
  have hsome : chars.length - 1 - i = chars.length - 1 - (i + 1) + 1 := by omega
  rw [closing?, hsome, List.range'_succ, List.find?_cons]
  by_cases hc : chars[i]? = some '*' ∧ chars[i + 1]? = some '/'
  · simp [hc]
  · rw [if_neg hc, closing?]
    split
    · next ht => exact absurd (by simpa using ht) hc
    · rfl

/-- Both characters of the end are in the line. -/
theorem lt_of_closing? {j : Nat} (h : closing? chars i = some j) : j + 1 < chars.length := by
  have hj := List.mem_of_find?_eq_some h
  rw [List.mem_range'_1] at hj
  omega

theorem splitComment?_cons_cons (c d : Char) (cs : List Char) :
    splitComment? (c :: d :: cs) =
      if c = '*' ∧ d = '/' then some (['*', '/'], cs)
      else (splitComment? (d :: cs)).map fun (body, rest) => (c :: body, rest) := by
  split
  · next h =>
      obtain ⟨rfl, rfl⟩ := h
      rfl
  · next h =>
      rw [splitComment?]
      rintro cs' rfl hd
      obtain ⟨rfl, -⟩ := List.cons.inj hd
      exact h ⟨rfl, rfl⟩

/-- What stands at an index, and behind it. -/
theorem drop_eq_cons {c : Char} {cs : List Char} (h : chars.drop i = c :: cs) :
    i < chars.length ∧ chars[i]? = some c ∧ chars.drop (i + 1) = cs := by
  refine ⟨?_, ?_, ?_⟩
  · have hl := congrArg List.length h
    rw [List.length_drop, List.length_cons] at hl
    omega
  · rw [← List.head?_drop, h, List.head?_cons]
  · rw [← List.tail_drop, h, List.tail_cons]

/-- **The end of a comment** is where it is found by index. -/
theorem map_snd_splitComment? {tail : List Char} (h : chars.drop i = tail) :
    (splitComment? tail).map Prod.snd = (closing? chars i).map fun j => chars.drop (j + 2) := by
  induction tail generalizing i with
  | nil =>
      rw [closing?_of_le (Nat.le_succ_of_le (List.drop_eq_nil_iff.mp h))]
      rfl
  | cons c cs ih =>
      obtain ⟨hi, hc, hcs⟩ := drop_eq_cons h
      cases cs with
      | nil =>
          rw [closing?_of_le (List.drop_eq_nil_iff.mp hcs)]
          simp [splitComment?]
      | cons d ds =>
          obtain ⟨hi', hd, hds⟩ := drop_eq_cons hcs
          simp only [closing?_of_lt hi', splitComment?_cons_cons, hc, hd, Option.some.injEq]
          by_cases hend : c = '*' ∧ d = '/'
          · rw [if_pos hend, if_pos hend]
            exact congrArg some hds.symm
          · rw [if_neg hend, if_neg hend, ← ih hcs, Option.map_map]
            rfl

/-! ### Where a piece ends -/

/-- The index behind the comment whose end is looked for from an index on: that of its end, or that
of the line. -/
def commentStop (chars : List Char) (i : Nat) : Nat :=
  match closing? chars i with
  | some j => j + 2
  | none => chars.length

/-- The index at which the piece that begins at index `i` ends. -/
def stopAt (inside : Bool) (chars : List Char) (i : Nat) : Nat :=
  if inside then commentStop chars i
  else if chars[i]? = some '/' ∧ chars[i + 1]? = some '*' then commentStop chars (i + 2)
  else if chars[i]? = some '#' then chars.length
  else if chars[i]? = some '\x22' then
    min (i + 1 + ((chars.drop (i + 1)).takeWhile (· != '\x22')).length + 1) chars.length
  else if chars[i]?.any isRunPart then i + ((chars.drop i).takeWhile isRunPart).length
  else i + 1

theorem commentStop_le (chars : List Char) (i : Nat) : commentStop chars i ≤ chars.length := by
  unfold commentStop
  split
  · next hj => exact lt_of_closing? hj
  · exact le_rfl

/-- Behind a block comment the line goes on at its end. -/
theorem rest_cutComment (opening : List Char) {tail : List Char} (h : chars.drop i = tail) :
    (cutComment opening tail).rest = chars.drop (commentStop chars i) := by
  have hs := map_snd_splitComment? h
  unfold cutComment commentStop
  cases hc : splitComment? tail with
  | none =>
      rw [hc] at hs
      rw [Option.map_eq_none_iff.mp hs.symm]
      exact List.drop_length.symm
  | some split =>
      rw [hc] at hs
      obtain ⟨j, hj, hrest⟩ := Option.map_eq_some_iff.mp hs.symm
      rw [hj]
      exact hrest.symm

/-- A run that is taken from an index on ends within the line, and what is behind it begins
there. -/
theorem drop_takeWhile (p : Char → Bool) (h : i ≤ chars.length) :
    (chars.drop i).dropWhile p = chars.drop (i + ((chars.drop i).takeWhile p).length) ∧
      i + ((chars.drop i).takeWhile p).length ≤ chars.length := by
  have hsplit : (chars.drop i).takeWhile p ++ (chars.drop i).dropWhile p = chars.drop i :=
    List.takeWhile_append_dropWhile
  refine ⟨?_, ?_⟩
  · have hdrop := congrArg (List.drop ((chars.drop i).takeWhile p).length) hsplit
    rwa [List.drop_left, List.drop_drop] at hdrop
  · have hl := congrArg List.length hsplit
    rw [List.length_append, List.length_drop] at hl
    omega

/-- **What is behind a piece** begins where the piece ends, within the line. -/
theorem rest_cut (inside : Bool) {c : Char} {cs : List Char} (h : chars.drop i = c :: cs) :
    (cut inside c cs).rest = chars.drop (stopAt inside chars i) ∧
      stopAt inside chars i ≤ chars.length := by
  obtain ⟨hi, hc, hcs⟩ := drop_eq_cons h
  have hhead : chars[i + 1]? = cs.head? := by rw [← List.head?_drop, hcs]
  simp only [stopAt, hc, hhead, Option.some.injEq, Option.any_some, cut, cutCode]
  split
  · exact ⟨rest_cutComment [] h, commentStop_le chars i⟩
  split
  · have htail : chars.drop (i + 2) = cs.tail := by rw [← hcs, List.tail_drop]
    exact ⟨rest_cutComment _ htail, commentStop_le chars (i + 2)⟩
  split
  · exact ⟨List.drop_length.symm, le_rfl⟩
  split
  · refine ⟨?_, min_le_right _ _⟩
    rw [← List.drop_eq_drop_min, ← hcs, (drop_takeWhile _ hi).1, List.drop_drop]
  split
  · next hrun =>
      have hword := drop_takeWhile isRunPart hi.le
      rw [h, List.dropWhile_cons_of_pos hrun] at hword
      rw [h]
      exact hword
  · exact ⟨hcs.symm, hi⟩

theorem rest_of_inside_cutComment {opening tail : List Char}
    (h : (cutComment opening tail).inside = true) : (cutComment opening tail).rest = [] := by
  unfold cutComment at h ⊢
  cases hs : splitComment? tail with
  | none => rfl
  | some split =>
      rw [hs] at h
      cases h

/-- A piece that leaves a block comment open is the last one of its line. -/
theorem rest_of_inside_cut {inside : Bool} {c : Char} {cs : List Char} :
    (cut inside c cs).inside = true → (cut inside c cs).rest = [] := by
  unfold cut
  split
  · exact rest_of_inside_cutComment
  unfold cutCode
  split
  · exact rest_of_inside_cutComment
  -- no other piece leaves one open
  split
  · exact fun _ => rfl
  split
  · exact nofun
  split <;> exact nofun

/-- **A piece is a slice**, and not an empty one. -/
theorem text_cut (inside : Bool) {c : Char} {cs : List Char} (h : chars.drop i = c :: cs) :
    i < stopAt inside chars i ∧
      (cut inside c cs).piece.text = chars.extract i (stopAt inside chars i) := by
  obtain ⟨hrest, hle⟩ := rest_cut inside h
  obtain ⟨hi, -, -⟩ := drop_eq_cons h
  have hlt := length_cut_rest inside c cs
  have hwhole := cut_append inside c cs
  rw [hrest, ← h] at hlt hwhole
  rw [List.length_drop, List.length_drop] at hlt
  have hstop : i < stopAt inside chars i := by omega
  refine ⟨hstop, ?_⟩
  have hlen : (cut inside c cs).piece.text.length = stopAt inside chars i - i := by
    have hl := congrArg List.length hwhole
    rw [List.length_append, List.length_drop, List.length_drop] at hl
    omega
  rw [List.extract_eq_take_drop, ← hwhole, List.take_left' hlen]

/-! ### A whole line -/

/-- The piece is the slice of the line that begins at an index, and ends where `stopAt` says. -/
def Piece.IsSlice (p : Piece) (inside : Bool) (chars : List Char) (start : Nat) : Prop :=
  start < stopAt inside chars start ∧ stopAt inside chars start ≤ chars.length ∧
    p.text = chars.extract start (stopAt inside chars start)

theorem isSlice_cut (inside : Bool) {c : Char} {cs : List Char} (h : chars.drop i = c :: cs) :
    (cut inside c cs).piece.IsSlice inside chars i := by
  obtain ⟨hlt, htext⟩ := text_cut inside h
  exact ⟨hlt, (rest_cut inside h).2, htext⟩

/-- A slice reaches from where it begins to where it ends. -/
theorem Piece.IsSlice.start_add {p : Piece} {inside : Bool} (h : p.IsSlice inside chars i) :
    i + p.text.length = stopAt inside chars i := by
  obtain ⟨hlt, hle, htext⟩ := h
  rw [htext, List.extract_eq_take_drop, List.length_take, List.length_drop]
  omega

theorem Piece.IsSlice.text_ne_nil {p : Piece} {inside : Bool} (h : p.IsSlice inside chars i) :
    p.text ≠ [] := by
  intro hnil
  have hstop := h.start_add
  rw [hnil, List.length_nil, Nat.add_zero] at hstop
  exact absurd hstop h.1.ne

/-- **The pieces from an index on** begin there, and each of them where the one before it ends. -/
theorem isSlice_line (chars : List Char) (inside : Bool) (tail : List Char) :
    ∀ i, chars.drop i = tail → ∀ front p back, (line inside tail).1 = front ++ p :: back →
      p.IsSlice (inside && front.isEmpty) chars (i + (front.flatMap Piece.text).length) := by
  fun_induction line inside tail with
  | case1 inside =>
      intro i h front p back hp
      cases front <;> cases hp
  | case2 inside c cs k ih =>
      intro i h front p back hp
      have hslice : k.piece.IsSlice inside chars i := isSlice_cut inside h
      cases front with
      | nil =>
          obtain ⟨rfl, -⟩ := List.cons.inj hp
          simpa using hslice
      | cons q front =>
          obtain ⟨rfl, hmore⟩ := List.cons.inj hp
          -- a piece behind the first is in no comment that was open before it
          have hinside : k.inside = false := by
            refine Bool.eq_false_iff.mpr fun hopen => ?_
            have hnil : k.rest = [] := rest_of_inside_cut hopen
            rw [hnil, line] at hmore
            cases front <;> cases hmore
          have hbehind := ih _ (rest_cut inside h).1.symm front p back hmore
          rw [hinside, ← hslice.start_add, Nat.add_assoc, ← List.length_append] at hbehind
          simpa using hbehind

theorem length_le_of_text_ne_nil {pieces : List Piece} (h : ∀ p ∈ pieces, p.text ≠ []) :
    pieces.length ≤ (pieces.flatMap Piece.text).length := by
  rw [List.length_flatMap, ← List.length_map (f := fun p : Piece => p.text.length)]
  refine List.length_le_sum_of_one_le _ fun n hn => ?_
  obtain ⟨p, hp, rfl⟩ := List.mem_map.mp hn
  exact List.length_pos_of_ne_nil (h p hp)

/-- **Highlighting loses no text.**  A line is cut into pieces, no more of them than there are
characters.

* Every piece has some text, and together the pieces are the line.
* Each piece is the slice of the line that begins where the one before it ends.  Its end is further
  on, and not behind the end of the line, whatever the piece is. -/
theorem line_slices (inside : Bool) (chars : List Char) :
    (line inside chars).1.length ≤ chars.length ∧
    (∀ p ∈ (line inside chars).1, p.text ≠ []) ∧
    (line inside chars).1.flatMap Piece.text = chars ∧
    ∀ front p back, (line inside chars).1 = front ++ p :: back →
      let start := (front.flatMap Piece.text).length
      let stop := stopAt (inside && front.isEmpty) chars start
      start < stop ∧ stop ≤ chars.length ∧ p.text = chars.extract start stop := by
  have hslice : ∀ front p back, (line inside chars).1 = front ++ p :: back →
      p.IsSlice (inside && front.isEmpty) chars (front.flatMap Piece.text).length := by
    intro front p back hp
    have hp' := isSlice_line chars inside chars 0 rfl front p back hp
    rwa [Nat.zero_add] at hp'
  have hsome : ∀ p ∈ (line inside chars).1, p.text ≠ [] := by
    intro p hp
    obtain ⟨front, back, hsplit⟩ := List.append_of_mem hp
    exact (hslice front p back hsplit).text_ne_nil
  have hlen := length_le_of_text_ne_nil hsome
  rw [flatMap_text_line] at hlen
  exact ⟨hlen, hsome, flatMap_text_line inside chars, hslice⟩

/-- A comment that is opened by the last two characters of a line: its end is looked for behind
them, and the piece ends with the line. -/
theorem line_slices_open :
    (line false "a/*".toList).1 = [⟨['a'], .plain⟩, ⟨['/', '*'], .comment⟩] ∧
      1 < stopAt false "a/*".toList 1 ∧ stopAt false "a/*".toList 1 ≤ 3 ∧
      ['/', '*'] = "a/*".toList.extract 1 (stopAt false "a/*".toList 1) := by
  have hline : (line false "a/*".toList).1 = [⟨['a'], .plain⟩, ⟨['/', '*'], .comment⟩] := by cbv
  obtain ⟨-, -, -, hslice⟩ := line_slices false "a/*".toList
  exact ⟨hline, hslice [⟨['a'], .plain⟩] _ [] hline⟩

end SourceCheck.Highlight
