import SourceCheck.Proofs.Text.Places
import SourceCheck.Text.Alphabet

/-!
# Text — where the lines of a text are

* `lines_append`: some characters of a line in front of a text, and `firstLine`, the line they are
  then part of.
* `place_of_lines`: a character of a line is a character of the text, at the position that its line
  and its index give.
* `newline_of_lines`: every line but the first begins behind a line feed.
* `line_of_place`: the line on which some characters of the text stand.
* `after_down`: what follows a position that is moved down is moved down with it.
* `eq_of_after_eq`: a position of a text is the position of one place in it.
-/

namespace SourceCheck

open Position (origin)

namespace Text

/-! ### The first line -/

/-- Some characters in front of the first of some lines. -/
def inFront {α : Type} (w : List α) : List (List α) → List (List α)
  | [] => [w]
  | l :: ls => (w ++ l) :: ls

/-- The part of a text before its first line break. -/
def firstLine (text : List Char) : List Char :=
  (lines text).headD []

theorem isLineEnd_eq_false_iff {c : Char} : isLineEnd c = false ↔ c ≠ '\n' ∧ c ≠ '\r' := by
  simp [isLineEnd]

theorem lines_cons_of_ne {c : Char} {cs : List Char} (hn : c ≠ '\n')
    (hr : c = '\r' → cs.head? ≠ some '\n') : lines (c :: cs) = inFront [c] (lines cs) := by
  rw [lines]
  · cases lines cs <;> rfl
  · exact hn
  · rintro cs' rfl rfl
    exact hr rfl rfl

theorem lines_cons_eq_inFront {c : Char} (h : isLineEnd c = false) (cs : List Char) :
    lines (c :: cs) = inFront [c] (lines cs) := by
  obtain ⟨hn, hr⟩ := isLineEnd_eq_false_iff.mp h
  exact lines_cons_of_ne hn fun he => absurd he hr

theorem inFront_append {α : Type} (a b : List α) (ls : List (List α)) :
    inFront (a ++ b) ls = inFront a (inFront b ls) := by
  cases ls <;> simp [inFront]

/-- **Characters of a line in front of a text.** -/
theorem lines_append {w : List Char} (hn : w ≠ []) (hw : ∀ c ∈ w, isLineEnd c = false)
    (rest : List Char) : lines (w ++ rest) = inFront w (lines rest) := by
  induction w with
  | nil => exact absurd rfl hn
  | cons c w ih =>
      rw [List.cons_append, lines_cons_eq_inFront (hw c List.mem_cons_self)]
      by_cases hw' : w = []
      · rw [hw', List.nil_append]
      · rw [ih hw' fun d hd => hw d (List.mem_cons_of_mem c hd), ← inFront_append]
        rfl

theorem head?_firstLine {c : Char} {text : List Char} (h : c ∈ (firstLine text).head?) :
    c ∈ text.head? := by
  revert h
  rw [firstLine]
  fun_cases lines text with
  | _ => simp

theorem firstLine_newline (text : List Char) : firstLine ('\n' :: text) = [] := by
  simp [firstLine]

theorem firstLine_return (text : List Char) : firstLine ('\r' :: '\n' :: text) = [] := by
  simp [firstLine]

end Text

/-! ### Further down, and further on -/

namespace Position

/-- The position so many lines further down, in the same column. -/
def down (n : Nat) (p : Position) : Position :=
  ⟨p.line + n, p.column⟩

theorem next_down (n : Nat) (p : Position) (c : Char) :
    (p.down n).next c = (p.next c).down n := by
  by_cases hc : c = '\n'
  · subst hc
    simp [down, Nat.add_right_comm]
  · rw [next_of_ne _ hc, next_of_ne _ hc]
    rfl

theorem after_down (n : Nat) (p : Position) (text : List Char) :
    (p.down n).after text = (p.after text).down n := by
  induction text generalizing p with
  | nil => rfl
  | cons c text ih => rw [after_cons, after_cons, next_down, ih]

theorem after_newline_cons (text : List Char) :
    origin.after ('\n' :: text) = (origin.after text).down 1 := by
  rw [← after_down]
  rfl

theorem after_cons_of_ne {c : Char} (h : c ≠ '\n') (text : List Char) :
    origin.after (c :: text) = (Position.mk 1 2).shift (origin.after text) := by
  rw [shift_after, after_cons, next_of_ne _ h]
  rfl

/-- Within a line only the column changes. -/
theorem after_of_newline_notMem {text : List Char} (h : '\n' ∉ text) (p : Position) :
    p.after text = ⟨p.line, p.column + text.length⟩ := by
  induction text generalizing p with
  | nil => rfl
  | cons c text ih =>
      rw [List.mem_cons, not_or] at h
      rw [after_cons, ih h.2, next_of_ne p (Ne.symm h.1), List.length_cons]
      simp only [Nat.add_assoc, Nat.add_comm 1]

/-- **A position is that of one place** in a text. -/
theorem eq_of_after_eq {a b x y : List Char} (htext : a ++ x = b ++ y)
    (h : origin.after a = origin.after b) : a = b := by
  have hnil : ∀ {front more : List Char}, origin.after (front ++ more) = origin.after front →
      more = [] := by
    intro front more he
    by_contra hn
    rw [after_append] at he
    exact absurd (he ▸ lt_after (origin.after front) hn) (lt_irrefl _)
  rcases List.append_eq_append_iff.mp htext with ⟨more, rfl, -⟩ | ⟨more, rfl, -⟩
  · rw [hnil h.symm, List.append_nil]
  · rw [hnil h, List.append_nil]

end Position

namespace Text

/-! ### Characters and lines -/

/-- A character of two texts is one of the first or of the second. -/
theorem mem_or_mem_of_append {v w a d : List Char} {c : Char} (h : w ++ v = a ++ c :: d) :
    (∃ m, w = a ++ c :: m) ∨ ∃ a', a = w ++ a' ∧ v = a' ++ c :: d := by
  rcases List.append_eq_append_iff.mp h with ha | ⟨m, rfl, hm⟩
  · exact Or.inr ha
  · cases m with
    | nil => exact Or.inr ⟨[], by simp, hm.symm⟩
    | cons e m =>
        obtain ⟨rfl, -⟩ := List.cons.inj hm
        exact Or.inl ⟨m, rfl⟩

/-- **A character of a line** is one of the text, and belongs to no line break. -/
theorem place_of_lines {text l : List Char} {n j : Nat} {c : Char}
    (hl : (lines text)[n]? = some l) (hc : l[j]? = some c) :
    ∃ a b, text = a ++ c :: b ∧ origin.after a = ⟨n + 1, j + 1⟩ ∧ c ≠ '\n' ∧
      (c = '\r' → b.head? ≠ some '\n') := by
  fun_induction lines text generalizing n j l with
  | case1 => simp at hl
  | case2 cs ih =>
      cases n with
      | zero =>
          obtain rfl := Option.some.inj hl
          simp at hc
      | succ n =>
          obtain ⟨a, b, rfl, ha, hb⟩ := ih hl hc
          refine ⟨'\n' :: a, b, rfl, ?_, hb⟩
          rw [Position.after_newline_cons, ha]
          rfl
  | case3 cs ih =>
      cases n with
      | zero =>
          obtain rfl := Option.some.inj hl
          simp at hc
      | succ n =>
          obtain ⟨a, b, rfl, ha, hb⟩ := ih hl hc
          refine ⟨'\r' :: '\n' :: a, b, rfl, ?_, hb⟩
          rw [Position.after_cons_of_ne (by decide), Position.after_newline_cons, ha]
          simp [Position.shift, Position.down]
  | case4 d ds hn hr h ih =>
      obtain rfl := eq_nil_of_lines h
      obtain ⟨rfl, rfl⟩ : n = 0 ∧ l = [d] := by cases n <;> simp_all
      obtain ⟨rfl, rfl⟩ : j = 0 ∧ d = c := by cases j <;> simp_all
      exact ⟨[], [], rfl, rfl, hn, by simp⟩
  | case5 d ds hn hr first more h ih =>
      rw [h] at ih
      cases n with
      | zero =>
          obtain rfl := Option.some.inj hl
          cases j with
          | zero =>
              obtain rfl := Option.some.inj hc
              refine ⟨[], ds, rfl, rfl, hn, ?_⟩
              rintro rfl hd
              obtain ⟨rest, rfl⟩ := List.head?_eq_some_iff.mp hd
              exact hr rest rfl rfl
          | succ j =>
              obtain ⟨a, b, rfl, ha, hb⟩ := @ih first 0 j rfl hc
              refine ⟨d :: a, b, rfl, ?_, hb⟩
              rw [Position.after_cons_of_ne hn, ha]
              simp [Position.shift]
              omega
      | succ n =>
          obtain ⟨a, b, rfl, ha, hb⟩ := @ih l (n + 1) j hl hc
          refine ⟨d :: a, b, rfl, ?_, hb⟩
          rw [Position.after_cons_of_ne hn, ha]
          simp [Position.shift]

/-- A list in which something occurs often enough has a first part with so many of it. -/
theorem exists_of_lt_count {c : Char} {text : List Char} {n : Nat} (h : n < text.count c) :
    ∃ a b, text = a ++ c :: b ∧ a.count c = n := by
  induction text generalizing n with
  | nil => simp at h
  | cons d text ih =>
      by_cases hd : d = c
      · subst hd
        cases n with
        | zero => exact ⟨[], text, rfl, rfl⟩
        | succ n =>
            rw [List.count_cons_self] at h
            obtain ⟨a, b, rfl, ha⟩ := ih (Nat.lt_of_succ_lt_succ h)
            exact ⟨d :: a, b, rfl, by rw [List.count_cons_self, ha]⟩
      · rw [List.count_cons_of_ne hd] at h
        obtain ⟨a, b, rfl, ha⟩ := ih h
        exact ⟨d :: a, b, rfl, by rw [List.count_cons_of_ne hd, ha]⟩

/-- **Every line but the first** begins behind a line feed. -/
theorem newline_of_lines {text l : List Char} {n : Nat} (h : (lines text)[n + 1]? = some l) :
    ∃ a b, text = a ++ '\n' :: b ∧ a.count '\n' = n ∧ b ≠ [] := by
  have hlt : n + 1 < (lines text).length := (List.getElem?_eq_some_iff.mp h).1
  rw [length_lines] at hlt
  have hcount : n < text.count '\n' := by
    split at hlt <;> omega
  obtain ⟨a, b, rfl, ha⟩ := exists_of_lt_count hcount
  refine ⟨a, b, rfl, ha, ?_⟩
  rintro rfl
  have hends : endsLine (a ++ ['\n']) = true := by simp [endsLine]
  rw [hends, List.count_append, ha] at hlt
  simp at hlt

/-! ### The line of a place -/

theorem lines_return_of_head? {cs : List Char} (h : cs.head? = some '\n') :
    lines ('\r' :: cs) = lines cs := by
  obtain ⟨cs, rfl⟩ := List.head?_eq_some_iff.mp h
  rw [lines_return_newline, lines_newline]

/-- **Behind a line feed** the lines are those of the text that is left. -/
theorem lines_behind_newline (front rest : List Char) :
    ∃ ls, lines (front ++ '\n' :: rest) = ls ++ lines rest ∧ ls.length = front.count '\n' + 1 := by
  induction front with
  | nil => exact ⟨[[]], lines_newline rest, rfl⟩
  | cons c front ih =>
      obtain ⟨ls, hls, hlen⟩ := ih
      rw [List.cons_append]
      by_cases hn : c = '\n'
      · subst hn
        refine ⟨[] :: ls, ?_, ?_⟩
        · rw [lines_newline, hls, List.cons_append]
        · rw [List.length_cons, hlen, List.count_cons_self]
      · rw [List.count_cons_of_ne hn]
        by_cases hr : c = '\r' ∧ (front ++ '\n' :: rest).head? = some '\n'
        · obtain ⟨rfl, hr⟩ := hr
          exact ⟨ls, (lines_return_of_head? hr).trans hls, hlen⟩
        · rw [lines_cons_of_ne hn fun hc hh => hr ⟨hc, hh⟩, hls]
          cases ls with
          | nil => simp at hlen
          | cons l ls => exact ⟨(c :: l) :: ls, rfl, hlen⟩

/-- The part of a text behind its last line feed. -/
theorem exists_lastLine (front : List Char) :
    ∃ f a, front = f ++ a ∧ '\n' ∉ a ∧ (f = [] ∨ ∃ g, f = g ++ ['\n']) := by
  induction front using List.reverseRecOn with
  | nil => exact ⟨[], [], rfl, List.not_mem_nil, Or.inl rfl⟩
  | append_singleton front c ih =>
      by_cases hc : c = '\n'
      · subst hc
        exact ⟨front ++ ['\n'], [], (List.append_nil _).symm, List.not_mem_nil, Or.inr ⟨front, rfl⟩⟩
      · obtain ⟨f, a, rfl, ha, hf⟩ := ih
        refine ⟨f, a ++ [c], List.append_assoc f a [c], ?_, hf⟩
        simpa [ha] using Ne.symm hc

/-- The first line goes on with what has no line end. -/
theorem lines_append_of_newline_notMem {a w : List Char} (ha : '\n' ∉ a) (hn : w ≠ [])
    (hw : ∀ c ∈ w, isLineEnd c = false) (rest : List Char) :
    lines (a ++ (w ++ rest)) = inFront (a ++ w) (lines rest) := by
  induction a with
  | nil => exact lines_append hn hw rest
  | cons c a ih =>
      rw [List.mem_cons, not_or] at ha
      rw [List.cons_append, lines_cons_of_ne (Ne.symm ha.1), ih ha.2, ← inFront_append]
      · rfl
      · rintro - hh
        cases a with
        | nil =>
            obtain ⟨d, w, rfl⟩ := List.exists_cons_of_ne_nil hn
            obtain rfl := Option.some.inj hh
            exact absurd (hw _ List.mem_cons_self) (by decide)
        | cons d a =>
            obtain rfl := Option.some.inj hh
            exact ha.2 List.mem_cons_self

/-- **Characters of the text** that no line end parts stand on one line, at the index that their
position gives. -/
theorem line_of_place {w : List Char} (hn : w ≠ []) (hw : ∀ c ∈ w, isLineEnd c = false)
    (front rest : List Char) :
    ∃ n a, a <:+ front ∧ origin.after front = ⟨n + 1, a.length + 1⟩ ∧
      (lines (front ++ (w ++ rest)))[n]? = some (a ++ (w ++ firstLine rest)) := by
  obtain ⟨f, a, rfl, ha, hf⟩ := exists_lastLine front
  have hfirst : (lines (a ++ (w ++ rest)))[0]? = some (a ++ (w ++ firstLine rest)) := by
    rw [lines_append_of_newline_notMem ha hn hw, firstLine]
    cases lines rest <;> simp [inFront]
  rcases hf with rfl | ⟨g, rfl⟩
  · refine ⟨0, a, List.suffix_refl a, ?_, hfirst⟩
    rw [List.nil_append, Position.after_of_newline_notMem ha, Nat.add_comm]
    rfl
  · obtain ⟨ls, hls, hlen⟩ := lines_behind_newline g (a ++ (w ++ rest))
    refine ⟨g.count '\n' + 1, a, List.suffix_append _ a, ?_, ?_⟩
    · rw [Position.after_append, Position.after_of_newline_notMem ha, Position.after_append,
        Position.after_cons, Position.after_nil, Position.next_newline, Position.line_after_origin,
        Nat.add_comm 1, Nat.add_comm 1]
    · have happ : g ++ ['\n'] ++ a ++ (w ++ rest) = g ++ '\n' :: (a ++ (w ++ rest)) := by simp
      rw [happ, hls, List.getElem?_append_right hlen.le, hlen, Nat.sub_self, hfirst]

end Text

end SourceCheck
