import SourceCheck.Proofs.Inspector.CurrentLine

/-!
# Inspector — a window moves as little as it can

A window onto some rows is at one of the offsets that leave no room behind the last row.  Those of
them that show a given row (`Shows`) are an interval.

* `shows_reveal`, `reveal_of_total_le`: a window is moved to where it shows the row, or to the last
  rows if there is no such row.
* `reveal_of_shows`: a window that shows the row stays where it is, so moving it twice is moving it
  once.
* `dist_reveal_lt`: of all the offsets that show the row, the window takes the nearest.
-/

namespace SourceCheck

/-- A window of the given height onto `total` rows, with nothing left free behind the last of them,
shows the row when it is at `offset`. -/
structure Shows (height total row offset : Nat) : Prop where
  le_end : offset ≤ total - max height 1
  le_row : offset ≤ row
  row_lt : row < offset + max height 1

variable {offset row height total : Nat}

/-- A window that is moved to show a row shows it. -/
theorem shows_reveal (h : row < total) (offset height : Nat) :
    Shows height total row (reveal offset row height total) := by
  obtain ⟨hle, hlt⟩ := reveal_shows h offset height
  exact ⟨reveal_le offset row height total, hle, hlt⟩

/-- For a row behind the last one, a window shows the last rows. -/
theorem reveal_of_total_le (h : total ≤ row) (offset height : Nat) :
    reveal offset row height total = total - max height 1 := by
  simp only [reveal]
  split_ifs <;> omega

/-- A window that shows the row stays where it is. -/
theorem reveal_of_shows (h : Shows height total row offset) :
    reveal offset row height total = offset := by
  obtain ⟨hend, hrow, hlt⟩ := h
  simp only [reveal]
  rw [if_neg hrow.not_gt, if_neg hlt.not_ge, min_eq_left hend]

/-- **A window is not moved twice.** -/
theorem reveal_reveal (offset row height total : Nat) :
    reveal (reveal offset row height total) row height total = reveal offset row height total := by
  rcases Nat.lt_or_ge row total with h | h
  · exact reveal_of_shows (shows_reveal h offset height)
  · rw [reveal_of_total_le h, reveal_of_total_le h]

/-- A window that shows other rows is moved to the first or the last offset that shows the row. -/
theorem reveal_of_not_shows (hn : ¬ Shows height total row offset) :
    (∀ o, Shows height total row o → offset < reveal offset row height total ∧
      reveal offset row height total ≤ o) ∨
    ∀ o, Shows height total row o → reveal offset row height total < offset ∧
      o ≤ reveal offset row height total := by
  by_cases hlow : offset + max height 1 ≤ row
  · refine Or.inl fun o ⟨hend, hrow, hlt⟩ => ?_
    simp only [reveal]
    split_ifs <;> omega
  · have hhigh : row < offset ∨ total - max height 1 < offset := by
      by_contra hno
      rw [not_or, Nat.not_lt, Nat.not_lt] at hno
      exact hn ⟨hno.2, hno.1, Nat.not_le.mp hlow⟩
    refine Or.inr fun o ⟨hend, hrow, hlt⟩ => ?_
    simp only [reveal]
    split_ifs <;> omega

/-- **The nearest offset** that shows the row is where the window is moved to. -/
theorem dist_reveal_lt {o : Nat} (ho : Shows height total row o)
    (hne : o ≠ reveal offset row height total) :
    Nat.dist (reveal offset row height total) offset < Nat.dist o offset := by
  by_cases hs : Shows height total row offset
  · rw [reveal_of_shows hs] at hne ⊢
    rw [Nat.dist_self]
    exact Nat.dist_pos_of_ne hne
  · rcases reveal_of_not_shows hs with hlow | hhigh
    · obtain ⟨hlt, hle⟩ := hlow o ho
      rw [Nat.dist_eq_sub_of_le_right hlt.le, Nat.dist_eq_sub_of_le_right (hlt.le.trans hle)]
      omega
    · obtain ⟨hlt, hle⟩ := hhigh o ho
      rw [Nat.dist_eq_sub_of_le hlt.le, Nat.dist_eq_sub_of_le (hle.trans hlt.le)]
      omega

/-- **A window is moved as little as it can.**  Let `r` be the first row of a window of `height`
rows, one at least, that is moved to show `row`.

* No room is left free behind the last row.
* The window shows the row, if there is one with that number.
* Moved again for the same row it stays, also for a row behind the last one.
* Of all the offsets that leave no room free and show the row, `r` is the nearest to the one
  before. -/
theorem reveal_minimal (offset row height total : Nat) :
    reveal offset row height total ≤ total - max height 1 ∧
    (row < total → reveal offset row height total ≤ row ∧
      row < reveal offset row height total + max height 1) ∧
    reveal (reveal offset row height total) row height total = reveal offset row height total ∧
    (row < total → ∀ o, o ≤ total - max height 1 → o ≤ row → row < o + max height 1 →
      o ≠ reveal offset row height total →
      Nat.dist (reveal offset row height total) offset < Nat.dist o offset) := by
  refine ⟨reveal_le offset row height total, fun h => reveal_shows h offset height,
    reveal_reveal offset row height total, fun _ o hend hrow hlt hne => ?_⟩
  exact dist_reveal_lt ⟨hend, hrow, hlt⟩ hne

/-- A window of ten rows that begins at row 20 is moved up to row 5, and no further. -/
theorem reveal_minimal_up :
    reveal 20 5 10 50 = 5 ∧ reveal 5 5 10 50 = 5 ∧ 5 < 5 + max 10 1 ∧
      Nat.dist 5 20 < Nat.dist 3 20 := by
  obtain ⟨-, hshown, hagain, hnearest⟩ := reveal_minimal 20 5 10 50
  have h : reveal 20 5 10 50 = 5 := by decide
  rw [h] at hshown hagain hnearest
  exact ⟨h, hagain, (hshown (by decide)).2,
    hnearest (by decide) 3 (by decide) (by decide) (by decide) (by decide)⟩

end SourceCheck
