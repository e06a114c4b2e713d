import SourceCheck.Proofs.Text.Reading
import SourceCheck.Text.Lines

/-!
# Text — places in a text

* `le_after`, `lt_after`: positions are met in their order.
* `Within before text p`: one of the characters of `text`, which stands behind `before`, is at `p`.
* `length_lines`: a text is cut into as many lines as it has line feeds, and one more if it goes on
  behind the last of them.  So every character is on one of the lines (`Within.line_le`), and the
  end of the text is on the last of them or, if a line feed ends it, one further
  (`line_after_cases`).
-/

namespace SourceCheck

/-! ### Order -/

namespace Position

instance : Preorder Position where
  le_refl _ := Or.inr rfl
  le_trans p q r hpq hqr := by
    simp only [le_iff, lt_iff] at hpq hqr ⊢
    rcases hpq with hpq | rfl
    · rcases hqr with hqr | rfl
      · exact Or.inl (by omega)
      · exact Or.inl hpq
    · exact hqr
  lt_iff_le_not_ge p q := by
    simp only [le_iff, lt_iff]
    refine ⟨fun h => ⟨Or.inl h, ?_⟩, ?_⟩
    · rintro (h' | rfl) <;> omega
    · rintro ⟨h | rfl, hn⟩
      · exact h
      · exact absurd (Or.inr rfl) hn

theorem le_after (p : Position) (text : List Char) : p ≤ p.after text := by
  induction text generalizing p with
  | nil => exact le_rfl
  | cons c text ih => exact (lt_next p c).le.trans (ih (p.next c))

theorem lt_after (p : Position) {text : List Char} (h : text ≠ []) : p < p.after text := by
  cases text with
  | nil => exact absurd rfl h
  | cons c text => exact (lt_next p c).trans_le (le_after _ text)

/-! ### Characters of a text -/

/-- One of the characters of `text`, which stands behind `before`, is at `p`. -/
def Within (before text : List Char) (p : Position) : Prop :=
  ∃ a c b, text = a ++ c :: b ∧ p = origin.after (before ++ a)

theorem Within.append_left {before a text : List Char} {p : Position}
    (h : Within (before ++ a) text p) : Within before (a ++ text) p := by
  obtain ⟨a', c, b, rfl, rfl⟩ := h
  exact ⟨a ++ a', c, b, by simp, by simp⟩

theorem Within.le {before text : List Char} {p : Position} (h : Within before text p) :
    origin.after before ≤ p := by
  obtain ⟨a, c, b, rfl, rfl⟩ := h
  rw [after_append]
  exact le_after _ a

end Position

/-! ### Lines -/

namespace Text

/-- Whether nothing follows the last line feed. -/
def endsLine (text : List Char) : Bool :=
  text.getLast?.all (· == '\n')

@[simp] theorem endsLine_newline_cons (cs : List Char) : endsLine ('\n' :: cs) = endsLine cs := by
  cases h : cs.getLast? <;> simp [endsLine, List.getLast?_cons, h]

theorem endsLine_cons {c : Char} {cs : List Char} (h : cs ≠ []) :
    endsLine (c :: cs) = endsLine cs := by
  rw [endsLine, endsLine, List.getLast?_cons_of_ne_nil h]

theorem endsLine_iff {text : List Char} (h : text ≠ []) :
    endsLine text = true ↔ text.getLast? = some '\n' := by
  rw [endsLine, List.getLast?_eq_some_getLast h]
  simp

theorem ne_nil_of_lines {cs l : List Char} {ls : List (List Char)} (h : lines cs = l :: ls) :
    cs ≠ [] := by
  rintro rfl
  simp at h

theorem eq_nil_of_lines {cs : List Char} (h : lines cs = []) : cs = [] := by
  revert h
  fun_cases lines cs <;> simp

/-- **As many lines as line feeds**, and one more if the text does not end with one. -/
theorem length_lines (text : List Char) :
    (lines text).length = text.count '\n' + if endsLine text then 0 else 1 := by
  fun_induction lines text with
  | case1 => rfl
  | case2 cs ih =>
      rw [List.length_cons, ih, List.count_cons_self, endsLine_newline_cons]
      omega
  | case3 cs ih =>
      rw [List.length_cons, ih, endsLine_cons (List.cons_ne_nil _ _), endsLine_newline_cons,
        List.count_cons_of_ne (show '\r' ≠ '\n' by decide), List.count_cons_self]
      omega
  | case4 c cs hc _ h ih =>
      obtain rfl := eq_nil_of_lines h
      have hn : [c].count '\n' = 0 := List.count_eq_zero.mpr (by simpa using Ne.symm hc)
      have he : endsLine [c] = false := by simpa [endsLine] using hc
      simp [hn, he]
  | case5 c cs hc _ l ls h ih =>
      rw [h] at ih
      rw [endsLine_cons (ne_nil_of_lines h), List.count_cons_of_ne hc]
      exact ih

end Text

namespace Position

theorem line_after_origin (text : List Char) :
    (origin.after text).line = 1 + text.count '\n' := by
  rw [after_origin, counted]

/-- Every character is on one of the lines. -/
theorem Within.line_le {text : List Char} {p : Position} (h : Within [] text p) :
    p.line ≤ (Text.lines text).length := by
  obtain ⟨a, c, b, rfl, rfl⟩ := h
  rw [List.nil_append, line_after_origin, Text.length_lines, List.count_append]
  split
  · next he =>
      -- the line feed at the end is not before `c`
      rw [Text.endsLine_iff (by simp), List.getLast?_append_of_ne_nil _ (by simp)] at he
      have hp := List.count_pos_iff.mpr (List.mem_of_getLast? he)
      omega
  · omega

/-- The end of a text is on its last line, or on the next if a line feed ends the text. -/
theorem line_after_cases {text : List Char} (h : text ≠ []) :
    (origin.after text).line ≤ (Text.lines text).length ∨
      (origin.after text).line = (Text.lines text).length + 1 ∧ text.getLast? = some '\n' := by
  rw [line_after_origin, Text.length_lines, ← Text.endsLine_iff h]
  split
  · exact Or.inr ⟨by omega, by assumption⟩
  · exact Or.inl (by omega)

end Position

end SourceCheck
