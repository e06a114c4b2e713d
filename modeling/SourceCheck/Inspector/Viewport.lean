/-!
# Inspector — the visible part of a list

A window of some rows onto a longer list is given by the first row it shows.  `reveal` moves the
window as little as needed to show a row, and never past the end of the list.
-/

namespace SourceCheck

/-- The first row to show, given the one shown before, so that `row` is visible in a window of
`height` rows onto `total` rows.  A window has at least one row. -/
def reveal (offset row height total : Nat) : Nat :=
  let h := max height 1
  let moved :=
    if row < offset then row
    else if offset + h ≤ row then row + 1 - h
    else offset
  min moved (total - h)

/-- The rows inside a border of the given outer height, counted as one at least. -/
def visibleRows (height : Nat) : Nat :=
  max (height - 2) 1

theorem reveal_le (offset row height total : Nat) :
    reveal offset row height total ≤ total - max height 1 := by
  simp only [reveal]
  omega

end SourceCheck
