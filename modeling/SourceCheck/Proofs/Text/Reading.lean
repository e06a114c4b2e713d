import Mathlib
import SourceCheck.Text.Reader

/-!
# Text — the text behind a reader

A reader that has taken the characters `before` of a text and has `rest` still ahead stands
`between` the two: where it is, and where the last character was, follow from `before` alone.

* `after_origin`: the position behind a text, by counting its line feeds and the characters
  behind the last one.
* `shift_after`: the position of something in a part of a text, and its position in the whole.
* `advance_between`: a reader stays between the two parts of its text.
-/

namespace SourceCheck

/-- The position behind a text, counted: one line more than it has line feeds, one column more
than it has characters behind the last of them. -/
def Position.counted (before : List Char) : Position :=
  ⟨1 + before.count '\n', 1 + (before.rtakeWhile (· ≠ '\n')).length⟩

/-- **Positions count line feeds.** -/
theorem Position.after_origin (before : List Char) :
    origin.after before = counted before := by
  induction before using List.reverseRecOn with
  | nil => rfl
  | append_singleton before c ih =>
      rw [after_append, ih, after_cons, after_nil]
      by_cases hc : c = '\n'
      · subst hc
        simp [counted, Nat.add_assoc]
      · rw [next_of_ne _ hc]
        simp [counted, hc, Nat.add_assoc]

/-! ### Places in a part of a text -/

namespace Position

/-- The position in a whole text of what stands at `q` in the part that begins at `p`. -/
def shift (p q : Position) : Position :=
  if q.line ≤ 1 then ⟨p.line, p.column + q.column - 1⟩ else ⟨p.line + q.line - 1, q.column⟩

/-- Lines and columns are counted from one. -/
theorem one_le_after_origin (text : List Char) :
    1 ≤ (origin.after text).line ∧ 1 ≤ (origin.after text).column := by
  simp [after_origin, counted]

/-- A part of a part. -/
theorem shift_shift (p : Position) {q : Position} (hq : 1 ≤ q.line ∧ 1 ≤ q.column)
    (r : Position) : p.shift (q.shift r) = (p.shift q).shift r := by
  obtain ⟨hl, hc⟩ := hq
  by_cases hr : r.line ≤ 1 <;> by_cases h : q.line ≤ 1
  · simp only [shift, hr, h, if_true, mk.injEq, true_and]
    omega
  · simp only [shift, hr, h, if_true, if_false]
  · have hs : ¬ q.line + r.line - 1 ≤ 1 := by omega
    simp only [shift, hr, h, hs, if_true, if_false, mk.injEq, and_true]
    omega
  · have hs : ¬ q.line + r.line - 1 ≤ 1 := by omega
    simp only [shift, hr, h, hs, if_false, mk.injEq, and_true]
    omega

/-- A character further in a part is one further in the whole. -/
theorem shift_next (p : Position) {q : Position} (hq : 1 ≤ q.line ∧ 1 ≤ q.column) (c : Char) :
    p.shift (q.next c) = (p.shift q).next c := by
  obtain ⟨hl, hc⟩ := hq
  by_cases hn : c = '\n'
  · have hs : ¬ q.line + 1 ≤ 1 := by omega
    subst hn
    by_cases h : q.line ≤ 1
    · simp only [shift, next_newline, hs, h, if_true, if_false, mk.injEq, and_true]
      omega
    · simp only [shift, next_newline, hs, h, if_false, mk.injEq, and_true]
      omega
  · by_cases h : q.line ≤ 1
    · simp only [shift, next_of_ne _ hn, h, if_true, mk.injEq, true_and]
      omega
    · simp only [shift, next_of_ne _ hn, h, if_false]

/-- Positions of a part are shifted to where it begins. -/
theorem shift_after (p : Position) (text : List Char) :
    p.shift (origin.after text) = p.after text := by
  induction text using List.reverseRecOn with
  | nil => simp [shift, origin]
  | append_singleton text c ih =>
      rw [after_append, after_append, after_cons, after_nil, after_cons, after_nil,
        shift_next p (one_le_after_origin text), ih]

end Position

/-! ### Readers -/

namespace Reader

/-- The reader that has taken `before` and has `rest` ahead. -/
def between (before rest : List Char) : Reader where
  rest := rest
  here := Position.origin.after before
  last := if before = [] then none else some (Position.origin.after before.dropLast)

@[simp] theorem rest_between (before rest : List Char) : (between before rest).rest = rest := rfl

@[simp] theorem here_between (before rest : List Char) :
    (between before rest).here = Position.origin.after before := rfl

theorem ofString_eq_between (source : String) : ofString source = between [] source.toList := rfl

/-- A reader that takes a character has one more behind it. -/
@[simp] theorem advance_between (before rest : List Char) (c : Char) :
    (between before (c :: rest)).advance = between (before ++ [c]) rest := by
  simp [between, Position.after_append]

/-- The character that a reader took last is the last one behind it. -/
theorem lastRead_between (before rest : List Char) (c : Char) :
    (between (before ++ [c]) rest).lastRead = Position.origin.after before := by
  simp [between, lastRead]

end Reader

end SourceCheck
