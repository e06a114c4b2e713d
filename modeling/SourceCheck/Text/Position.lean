/-!
# Text — positions

A position is a line and a column, both counted from one.  Reading a line feed moves to the
first column of the next line; reading any other character, a carriage return included, moves
one column on.  Positions are ordered as they are met in a text: by line, then by column.
-/

namespace SourceCheck

structure Position where
  line : Nat
  column : Nat
deriving DecidableEq

namespace Position

/-- The position of the first character of a text. -/
def origin : Position := ⟨1, 1⟩

/-- The position after reading `c` at `p`. -/
def next (p : Position) (c : Char) : Position :=
  if c = '\n' then ⟨p.line + 1, 1⟩ else ⟨p.line, p.column + 1⟩

/-- The position after reading a whole text from `p` on. -/
def after (p : Position) (text : List Char) : Position :=
  text.foldl next p

@[simp] theorem next_newline (p : Position) : p.next '\n' = ⟨p.line + 1, 1⟩ := rfl

theorem next_of_ne {c : Char} (p : Position) (h : c ≠ '\n') :
    p.next c = ⟨p.line, p.column + 1⟩ := by
  simp [next, h]

@[simp] theorem after_nil (p : Position) : p.after [] = p := rfl

@[simp] theorem after_cons (p : Position) (c : Char) (text : List Char) :
    p.after (c :: text) = (p.next c).after text := rfl

theorem after_append (p : Position) (a b : List Char) :
    p.after (a ++ b) = (p.after a).after b := by
  simp [after, List.foldl_append]

/-! ### Order -/

instance : LT Position :=
  ⟨fun p q => p.line < q.line ∨ p.line = q.line ∧ p.column < q.column⟩

instance : LE Position := ⟨fun p q => p < q ∨ p = q⟩

theorem lt_iff {p q : Position} :
    p < q ↔ p.line < q.line ∨ p.line = q.line ∧ p.column < q.column := Iff.rfl

theorem le_iff {p q : Position} : p ≤ q ↔ p < q ∨ p = q := Iff.rfl

instance (p q : Position) : Decidable (p < q) :=
  inferInstanceAs (Decidable (p.line < q.line ∨ p.line = q.line ∧ p.column < q.column))

instance (p q : Position) : Decidable (p ≤ q) := inferInstanceAs (Decidable (p < q ∨ p = q))

instance : Ord Position := ⟨fun p q => if p < q then .lt else if p = q then .eq else .gt⟩

/-- Reading a character moves on in the order. -/
theorem lt_next (p : Position) (c : Char) : p < p.next c := by
  unfold next
  split
  · exact Or.inl (Nat.lt_succ_self _)
  · exact Or.inr ⟨rfl, Nat.lt_succ_self _⟩

/-! ### Text -/

/-- A position in words, as diagnostics and log lines give it. -/
def describe (p : Position) : String :=
  s!"line {p.line}, column {p.column}"

end Position

end SourceCheck
