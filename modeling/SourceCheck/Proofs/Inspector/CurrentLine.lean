import SourceCheck.Proofs.Inspector.Bounds

/-!
# Inspector — when the current line is on the screen

Drawing scrolls the source pane so that the current line is among the lines that fit
(`reveal_shows`).  But a pane shows rows, and the caret below the line of an error is a row too.

* `rows`: what there is to show from some line on.  The pane goes down the lines until it is full,
  and so shows the first of these rows (`visible_eq_take`).
* `rows_append`: the rows of some lines, and of those behind them.
* `length_bodyRows`: there is one row for each line, and one for the caret.
* `mem_visible_iff`: how far down the row of the current line is, and so whether the window reaches
  it.
* `current_line_shown_iff`: right behind a drawing the current line is shown, unless it would be in
  the last row of the pane and the caret of an error above it, in the same window, takes a row.
-/

namespace SourceCheck

open Screen (Line)

/-- A window that is moved to show a row shows it. -/
theorem reveal_shows {row total : Nat} (h : row < total) (offset height : Nat) :
    reveal offset row height total ≤ row ∧ row < reveal offset row height total + max height 1 := by
  simp only [reveal]
  split_ifs <;> omega

/-- The rows of a pane, on a screen that has some for it. -/
theorem visibleRows_sub_one {height : Nat} (h : 4 ≤ height) :
    visibleRows (height - 1) = height - 3 := by
  unfold visibleRows
  omega

namespace SourcePane

variable (pane : SourcePane)

/-! ### Rows of lines -/

/-- The rows of the given lines, the first of which has the given number, to the end of the
text. -/
def rows (number : Nat) : List (List Highlight.Piece) → List Line
  | [] => pane.caretIf (number ≤ ·)
  | pieces :: more =>
    pane.lineRow number pieces :: (pane.caretIf (· == number) ++ rows (number + 1) more)

theorem length_caretIf_le_one (here : Nat → Bool) : (pane.caretIf here).length ≤ 1 := by
  unfold caretIf
  split
  · split <;> simp
  · simp

/-- **Until the room is used up**, a window takes row after row. -/
theorem window_eq_take (room number : Nat) (ls : List (List Highlight.Piece)) :
    pane.window room 0 number ls = (pane.rows number ls).take room := by
  induction ls generalizing room number with
  | nil =>
      cases room with
      | zero => rw [window, List.take_zero]
      | succ room =>
          have hone := pane.length_caretIf_le_one (number ≤ ·)
          rw [window, rows, List.take_of_length_le (hone.trans (Nat.le_add_left 1 room))]
  | cons pieces ls ih =>
      cases room with
      | zero => rw [window, List.take_zero]
      | succ room =>
          -- a caret that does not fit takes no room, but then there is none left
          have hleft : room - ((pane.caretIf (· == number)).take room).length =
              room - (pane.caretIf (· == number)).length := by
            rw [List.length_take]
            omega
          rw [window, rows, List.take_succ_cons, List.take_append, hleft, ih]

/-- The lines above a window only count. -/
theorem window_of_le {above : Nat} {ls : List (List Highlight.Piece)} (h : above ≤ ls.length)
    (room number : Nat) :
    pane.window room above number ls = pane.window room 0 (number + above) (ls.drop above) := by
  induction ls generalizing above number with
  | nil =>
      obtain rfl : above = 0 := Nat.le_zero.mp h
      rfl
  | cons pieces ls ih =>
      cases above with
      | zero => rfl
      | succ above =>
          cases room with
          | zero => rw [window, window]
          | succ room =>
              rw [window, ih (Nat.succ_le_succ_iff.mp h), Nat.add_right_comm, Nat.add_assoc,
                List.drop_succ_cons]

/-- **What the pane shows** is the first rows from the offset on. -/
theorem visible_eq_take {offset : Nat} (h : offset ≤ pane.highlighted.length) (height : Nat) :
    pane.visible height offset =
      (pane.rows (offset + 1) (pane.highlighted.drop offset)).take (visibleRows height) := by
  rw [visible, pane.window_of_le h, window_eq_take, Nat.add_comm 1]

/-- The rows of the given lines alone, the first of which has the given number. -/
def bodyRows (number : Nat) : List (List Highlight.Piece) → List Line
  | [] => []
  | pieces :: more =>
    pane.lineRow number pieces :: (pane.caretIf (· == number) ++ bodyRows (number + 1) more)

/-- The rows of some lines, and of those behind them. -/
theorem rows_append (number : Nat) (front rest : List (List Highlight.Piece)) :
    pane.rows number (front ++ rest) =
      pane.bodyRows number front ++ pane.rows (number + front.length) rest := by
  induction front generalizing number with
  | nil => rfl
  | cons pieces front ih =>
      rw [List.cons_append, rows, ih (number + 1), bodyRows, List.cons_append, List.append_assoc,
        List.length_cons, Nat.add_right_comm, Nat.add_assoc]

/-- How many carets stand below the lines from `first` on and before `last`: one or none. -/
def carets (first last : Nat) : Nat :=
  match pane.error with
  | some p => if first ≤ p.line ∧ p.line < last then 1 else 0
  | none => 0

theorem carets_self (n : Nat) : pane.carets n n = 0 := by
  unfold carets
  split
  · exact if_neg (by omega)
  · rfl

theorem carets_add {a b c : Nat} (hab : a ≤ b) (hbc : b ≤ c) :
    pane.carets a c = pane.carets a b + pane.carets b c := by
  unfold carets
  split
  · split_ifs <;> omega
  · rfl

theorem length_caretIf (number : Nat) :
    (pane.caretIf (· == number)).length = pane.carets number (number + 1) := by
  unfold caretIf carets
  cases pane.error with
  | none => rfl
  | some p =>
      by_cases h : p.line = number
      · simp [h]
      · have hn : ¬ (number ≤ p.line ∧ p.line < number + 1) := by omega
        simp only [beq_iff_eq, h, hn, if_false, List.length_nil]

/-- **One row for each line, and one for the caret.** -/
theorem length_bodyRows (number : Nat) (ls : List (List Highlight.Piece)) :
    (pane.bodyRows number ls).length = ls.length + pane.carets number (number + ls.length) := by
  induction ls generalizing number with
  | nil => simp [bodyRows, carets_self]
  | cons pieces ls ih =>
      have hadd := pane.carets_add (Nat.le_add_right number 1)
        (Nat.add_le_add_left (Nat.le_add_left 1 ls.length) number)
      rw [bodyRows, List.length_cons, List.length_append, length_caretIf, ih, List.length_cons, hadd,
        Nat.add_right_comm number 1, ← Nat.add_assoc number]
      omega

/-! ### The row with the arrow -/

/-- The row has the arrow in front. -/
def Marked (row : Line) : Prop :=
  (Line.text row).head? = some '▶'

theorem marked_lineRow {number : Nat} {pieces : List Highlight.Piece} :
    Marked (pane.lineRow number pieces) ↔ number = pane.current := by
  by_cases h : number = pane.current <;> simp [Marked, Line.text, lineRow, gutter, h]

theorem not_marked_caretRow (column : Nat) : ¬ Marked (caretRow column) := by
  rw [Marked, caretRow, Nat.add_comm 6]
  simp [Line.text, List.replicate_succ]

/-- The arrow is in no row above that of the current line. -/
theorem not_marked_of_mem_bodyRows {number : Nat} {ls : List (List Highlight.Piece)}
    (h : number + ls.length ≤ pane.current) {row : Line} (hr : row ∈ pane.bodyRows number ls) :
    ¬ Marked row := by
  induction ls generalizing number with
  | nil => cases hr
  | cons pieces ls ih =>
      rw [List.length_cons] at h
      simp only [bodyRows, List.mem_cons, List.mem_append] at hr
      rcases hr with rfl | hr | hr
      · rw [marked_lineRow]
        omega
      · unfold caretIf at hr
        split at hr
        · split at hr
          · rw [List.mem_singleton.mp hr]
            exact not_marked_caretRow _
          · cases hr
        · cases hr
      · exact ih (by omega) hr

/-- A row that is in a list at one place only is among the first rows just when these reach it. -/
theorem mem_take_append_cons_iff {above more : List Line} {row : Line} (h : row ∉ above) {n : Nat} :
    row ∈ (above ++ row :: more).take n ↔ above.length < n := by
  refine ⟨fun hm => ?_, fun hn => ?_⟩
  · by_contra hn
    rw [List.take_append_of_le_length (Nat.not_lt.mp hn)] at hm
    exact h (List.mem_of_mem_take hm)
  · obtain ⟨k, rfl⟩ := Nat.exists_eq_add_of_lt hn
    rw [Nat.add_assoc, List.take_length_add_append, List.take_succ_cons]
    exact List.mem_append_right _ List.mem_cons_self

theorem length_highlighted (inside : Bool) (ls : List (List Char)) :
    (Highlight.lines inside ls).length = ls.length := by
  induction ls generalizing inside with
  | nil => rfl
  | cons l ls ih => simp [Highlight.lines, ih]

/-- **How far down the current line is.**  Its row is below one row for each line of the window
above it, and below the caret if one of these has the error. -/
theorem mem_visible_iff {pieces : List Highlight.Piece} {offset : Nat}
    (hp : pane.highlighted[pane.current - 1]? = some pieces) (hc : 1 ≤ pane.current)
    (ho : offset ≤ pane.current - 1) (height : Nat) :
    pane.lineRow pane.current pieces ∈ pane.visible height offset ↔
      pane.current - 1 - offset + pane.carets (offset + 1) pane.current < visibleRows height := by
  obtain ⟨hlt, hget⟩ := List.getElem?_eq_some_iff.mp hp
  have hsplit : pane.highlighted = pane.highlighted.take (pane.current - 1) ++
      pieces :: pane.highlighted.drop (pane.current - 1 + 1) := by
    rw [← hget, ← List.drop_eq_getElem_cons, List.take_append_drop]
  have hlen : ((pane.highlighted.take (pane.current - 1)).drop offset).length =
      pane.current - 1 - offset := by
    rw [List.length_drop, List.length_take_of_le hlt.le]
  have hnumber : offset + 1 + (pane.current - 1 - offset) = pane.current := by omega
  rw [pane.visible_eq_take (ho.trans hlt.le), hsplit,
    List.drop_append_of_le_length (by rw [List.length_take_of_le hlt.le]; exact ho), rows_append,
    rows, hlen, hnumber, mem_take_append_cons_iff, length_bodyRows, hlen, hnumber]
  intro hm
  exact pane.not_marked_of_mem_bodyRows (by omega) hm (pane.marked_lineRow.mpr rfl)

end SourcePane

namespace Inspector

/-- The row of the current line is one of those that the source pane shows on a screen of the given
height. -/
def ShowsLine (i : Inspector) (height : Nat) : Prop :=
  ∃ pieces, i.sourcePane.highlighted[i.line - 1]? = some pieces ∧
    i.sourcePane.lineRow i.line pieces ∈ i.sourcePane.visible (height - 1) i.sourceScroll

/-- The caret of an error above the current line takes the row that the current line would be in,
the last one of a screen of the given height. -/
def CaretInTheWay (i : Inspector) (height : Nat) : Prop :=
  i.line = i.sourceScroll + (height - 3) ∧
    ∃ p, i.inspection.errorLocation? = some p ∧ i.sourceScroll < p.line ∧ p.line < i.line

theorem carets_eq_one_iff (i : Inspector) :
    i.sourcePane.carets (i.sourceScroll + 1) i.line = 1 ↔
      ∃ p, i.inspection.errorLocation? = some p ∧ i.sourceScroll < p.line ∧ p.line < i.line := by
  simp only [SourcePane.carets, sourcePane]
  cases i.inspection.errorLocation? with
  | none => simp
  | some p => simp

theorem carets_le_one (pane : SourcePane) (first last : Nat) : pane.carets first last ≤ 1 := by
  unfold SourcePane.carets
  split
  · split_ifs <;> omega
  · omega

/-- The window reaches the row of the current line. -/
theorem showsLine_iff_lt {i : Inspector} (hone : 1 ≤ i.line) (hline : i.line ≤ lineCount i.source)
    (hle : i.sourceScroll ≤ i.line - 1) (height : Nat) :
    i.ShowsLine height ↔
      i.line - 1 - i.sourceScroll + i.sourcePane.carets (i.sourceScroll + 1) i.line <
        visibleRows (height - 1) := by
  have hlines : i.sourcePane.highlighted.length = lineCount i.source :=
    SourcePane.length_highlighted _ _
  have hget : i.sourcePane.highlighted[i.line - 1]? = some _ :=
    List.getElem?_eq_getElem (by omega)
  have hmem := i.sourcePane.mem_visible_iff hget hone hle (height - 1)
  refine ⟨?_, fun hm => ⟨_, hget, hmem.mpr hm⟩⟩
  rintro ⟨pieces, hp, hm⟩
  obtain rfl := Option.some.inj (hget.symm.trans hp)
  exact hmem.mp hm

variable {source : String} {i : Inspector}

/-- Drawing moves the current line into the window. -/
theorem InBounds.settle_reveals (h : i.InBounds source) (hline : i.line ≤ lineCount source)
    (height : Nat) :
    (i.settle height).sourceScroll ≤ (i.settle height).line - 1 ∧
      (i.settle height).line - 1 < (i.settle height).sourceScroll + visibleRows (height - 1) := by
  have hrow : i.line - 1 < lineCount source := by
    have := h.stands.one_le_line
    omega
  have hr := reveal_shows hrow i.sourceScroll (visibleRows (height - 1))
  rwa [max_visibleRows, ← h.about.settle_sourceScroll] at hr

/-- **A drawn inspector shows its current line**, unless a caret is in the way. -/
theorem InBounds.showsLine_iff (h : i.InBounds source) {height : Nat} (hrow : 4 ≤ height)
    (hline : i.line ≤ lineCount source) :
    (i.settle height).ShowsLine height ↔ ¬ (i.settle height).CaretInTheWay height := by
  obtain ⟨hle, hlt⟩ := h.settle_reveals hline height
  have hone : 1 ≤ (i.settle height).line := h.stands.one_le_line
  have hrows := visibleRows_sub_one hrow
  have hcarets := carets_le_one (i.settle height).sourcePane ((i.settle height).sourceScroll + 1)
    (i.settle height).line
  rw [showsLine_iff_lt hone ((h.settle height).about.1.symm ▸ hline) hle, CaretInTheWay,
    ← carets_eq_one_iff, hrows]
  rw [hrows] at hlt
  -- with the caret the line is one row further down, which matters in the last row only
  omega

end Inspector

/-- **The current line on the screen.**  Right behind a drawing on a screen whose source pane has a
row for text, the current line is shown, if it is a line of the text, just when no caret is in the
way: that of an error on a line of the window above the current one, which would be in the last
row. -/
theorem current_line_shown_iff (source : String) (acts : List Inspector.Act) (height : Nat)
    (hrow : 4 ≤ height) :
    let i := ((Inspector.ofString source).after acts).settle height
    i.line ≤ (Text.lines source.toList).length →
      (i.ShowsLine height ↔
        ¬ (i.line = i.sourceScroll + (height - 3) ∧
          ∃ p, i.inspection.errorLocation? = some p ∧
            i.sourceScroll < p.line ∧ p.line < i.line)) :=
  fun hline => (Inspector.inBounds_after source acts).showsLine_iff hrow hline

/-- One row more, and the line below the caret is shown. -/
theorem current_line_shown_below_caret :
    (((Inspector.ofString "@\na\nb\nc").after [.press .down, .press .down]).settle 7).ShowsLine 7 := by
  refine (current_line_shown_iff "@\na\nb\nc" [.press .down, .press .down] 7 (by decide) ?_).mpr ?_
  · cbv
  · rintro ⟨hl, -⟩
    cases hl.symm.trans (show _ = 3 by cbv)

/-- In a pane of three rows, with an error on the first line, the third line is not shown when it
is the current one: the caret takes its row. -/
theorem current_line_hidden_by_caret :
    let s := [Input.press .down, .press .down].foldl Session.step
      (.ofString "@\na\nb\nc" (.limited 40 6))
    s.size.height = 6 ∧ s.inspector.line = 3 ∧
      (Text.lines s.inspector.source.toList).length = 4 ∧ ¬ s.inspector.ShowsLine 6 := by
  refine ⟨by cbv, by cbv, by cbv, fun hshows => ?_⟩
  have hlt := (Inspector.showsLine_iff_lt (by cbv) (by cbv) (by cbv) 6).mp hshows
  exact absurd hlt (Nat.not_lt.mpr (by cbv))

end SourceCheck
