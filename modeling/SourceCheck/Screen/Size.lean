/-!
# Screen — sizes

A screen has at most 65535 cells.  A greater one that is asked for becomes the greatest of the
same proportions, each side rounded down (`Size.limited`).
-/

namespace SourceCheck.Screen

/-- The greatest number of cells on a screen. -/
def maxCells : Nat := 65535

structure Size where
  width : Nat
  height : Nat
  fits : width * height ≤ maxCells

/-- A root with one more binary digit set, if it is then still no greater than the root of
`n / d`. -/
def withDigit (n d bit root : Nat) : Nat :=
  let more := root + (1 <<< bit)
  if more * more * d ≤ n then more else root

/-- The binary digits of a root below the given one, found from the highest down. -/
def rootFrom (n d : Nat) : Nat → Nat → Nat
  | 0, root => root
  | bit + 1, root => rootFrom n d bit (withDigit n d bit root)

/-- The square root of `n / d`, rounded down. -/
def quotientRoot (n d : Nat) : Nat :=
  rootFrom n d (n.log2 + 1) 0

theorem withDigit_mul_self_le {n d root : Nat} (bit : Nat) (h : root * root * d ≤ n) :
    withDigit n d bit root * withDigit n d bit root * d ≤ n := by
  simp only [withDigit]
  split <;> assumption

theorem rootFrom_mul_self_le {n d root : Nat} (bit : Nat) (h : root * root * d ≤ n) :
    rootFrom n d bit root * rootFrom n d bit root * d ≤ n := by
  induction bit generalizing root with
  | zero => exact h
  | succ bit ih => exact ih (withDigit_mul_self_le bit h)

theorem quotientRoot_mul_self_le (n d : Nat) : quotientRoot n d * quotientRoot n d * d ≤ n :=
  rootFrom_mul_self_le _ (by omega)

/-- Two sides that are no longer than the proportions allow make an area within the limit. -/
theorem mul_le_of_roots {w h a b m : Nat} (hw : 0 < w) (hh : 0 < h) (ha : a * a * h ≤ m * w)
    (hb : b * b * w ≤ m * h) : a * b ≤ m := by
  have product : (a * b) * (a * b) * (w * h) ≤ m * m * (w * h) := by
    calc (a * b) * (a * b) * (w * h) = (a * a * h) * (b * b * w) := by ac_rfl
      _ ≤ (m * w) * (m * h) := Nat.mul_le_mul ha hb
      _ = m * m * (w * h) := by ac_rfl
  exact Nat.mul_self_le_mul_self_iff.1 (Nat.le_of_mul_le_mul_right product (Nat.mul_pos hw hh))

/-- The size asked for, or the greatest of the same proportions. -/
def Size.limited (width height : Nat) : Size :=
  if h : width * height ≤ maxCells then ⟨width, height, h⟩
  else
    { width := quotientRoot (maxCells * width) height
      height := quotientRoot (maxCells * height) width
      fits := by
        have positive : 0 < width * height := by omega
        exact mul_le_of_roots (Nat.pos_of_mul_pos_right positive)
          (Nat.pos_of_mul_pos_left positive) (quotientRoot_mul_self_le _ _)
          (quotientRoot_mul_self_le _ _) }

end SourceCheck.Screen
