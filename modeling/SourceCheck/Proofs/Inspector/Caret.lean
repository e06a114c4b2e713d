import SourceCheck.Proofs.Inspector.CurrentLine

/-!
# Inspector — when the caret is on the screen

Going to the error makes its line the current one, and drawing scrolls the source pane to that line.
The caret is the row below it, which the window need not reach.

* `rows_at_error`, `rows_past_end`: where the caret is among the rows from some line on.
* `visible_at_error`: so it is shown if the window reaches one row further than the line.
* `reveal_past_end`: a window that is moved to the end of the lines, for an error past it.
* `InBounds.showsCaret_iff`: when an inspector stands at the error and is drawn, the caret is shown
  unless the line above it is in the last row of the pane; and then it is right below that line.
* `caret_shown_iff`: so it is for a fresh inspector, and for any that is told to go to the error.
-/

namespace SourceCheck

open Screen (Line)

/-- Behind the last row, a window shows the last rows. -/
theorem reveal_past_end {offset total : Nat} (h : offset ≤ total) (height : Nat) :
    reveal offset total height total = total - max height 1 := by
  simp only [reveal]
  split_ifs <;> omega

/-- The end of a window that was at the beginning. -/
theorem reveal_zero_add {row total : Nat} (h : row ≤ total) (height : Nat) :
    reveal 0 row height total + max height 1 = max (max height 1) (min (row + 1) total) := by
  simp only [reveal]
  split_ifs <;> omega

theorem visibleRows_of_le {height : Nat} (h : 5 ≤ height) :
    visibleRows (height - 1) = height - 3 :=
  visibleRows_sub_one (Nat.le_of_succ_le h)

namespace SourcePane

variable {pane : SourcePane} {p : Position}

/-! ### Rows that are no carets -/

theorem gutterStyle_ne_plain (isError isCurrent : Bool) : gutterStyle isError isCurrent ≠ .plain := by
  cases isError <;> cases isCurrent <;> decide

/-- The row of a line has a coloured gutter, and a caret has none. -/
theorem lineRow_ne_caretRow (pane : SourcePane) (number : Nat) (pieces : List Highlight.Piece)
    (column : Nat) : pane.lineRow number pieces ≠ caretRow column := by
  intro h
  obtain ⟨hgutter, -⟩ := List.cons.inj h
  exact gutterStyle_ne_plain _ _ (Screen.Span.mk.inj hgutter).2

theorem caretIf_eq_nil (he : pane.error = some p) {here : Nat → Bool} (h : here p.line = false) :
    pane.caretIf here = [] := by
  simp [caretIf, he, h]

theorem caretIf_of_ne {number : Nat} (he : pane.error = some p) (h : p.line ≠ number) :
    pane.caretIf (· == number) = [] :=
  caretIf_eq_nil he (beq_eq_false_iff_ne.mpr h)

/-- The caret is not among the rows of other lines than that of the error. -/
theorem caretRow_notMem_bodyRows (he : pane.error = some p) {number : Nat}
    {ls : List (List Highlight.Piece)} (h : number + ls.length ≤ p.line) (column : Nat) :
    caretRow column ∉ pane.bodyRows number ls := by
  induction ls generalizing number with
  | nil => exact List.not_mem_nil
  | cons pieces ls ih =>
      rw [List.length_cons] at h
      rw [bodyRows, caretIf_of_ne he (by omega), List.nil_append, List.mem_cons, not_or]
      exact ⟨(pane.lineRow_ne_caretRow number pieces column).symm, ih (by omega)⟩

theorem length_bodyRows_above (he : pane.error = some p) {number : Nat}
    {ls : List (List Highlight.Piece)} (h : number + ls.length ≤ p.line) :
    (pane.bodyRows number ls).length = ls.length := by
  have hn : pane.carets number (number + ls.length) = 0 := by
    rw [carets, he]
    exact if_neg (by omega)
  rw [length_bodyRows, hn, Nat.add_zero]

/-! ### Where the caret is -/

/-- **An error on a line.**  The caret is below the row of the line, and that is below one row for
each line above it. -/
theorem rows_at_error (he : pane.error = some p) {pieces : List Highlight.Piece} {offset : Nat}
    (hp : pane.highlighted[p.line - 1]? = some pieces) (hone : 1 ≤ p.line)
    (ho : offset ≤ p.line - 1) :
    ∃ above more, pane.rows (offset + 1) (pane.highlighted.drop offset) =
        above ++ pane.lineRow p.line pieces :: caretRow p.column :: more ∧
      above.length = p.line - 1 - offset ∧ caretRow p.column ∉ above := by
  obtain ⟨hlt, hget⟩ := List.getElem?_eq_some_iff.mp hp
  obtain ⟨front, hfront⟩ : ∃ front, front = (pane.highlighted.take (p.line - 1)).drop offset :=
    ⟨_, rfl⟩
  have hlen : front.length = p.line - 1 - offset := by
    rw [hfront, List.length_drop, List.length_take_of_le hlt.le]
  have hsplit : pane.highlighted.drop offset =
      front ++ pieces :: pane.highlighted.drop (p.line - 1 + 1) := by
    rw [hfront, ← hget, ← List.drop_eq_getElem_cons, ← List.drop_append_of_le_length,
      List.take_append_drop]
    rwa [List.length_take_of_le hlt.le]
  have hnumber : offset + 1 + front.length = p.line := by omega
  have hcaret : pane.caretIf (· == p.line) = [caretRow p.column] := by simp [caretIf, he]
  have hrows : pane.rows (offset + 1) (pane.highlighted.drop offset) =
      pane.bodyRows (offset + 1) front ++ pane.lineRow p.line pieces :: caretRow p.column ::
        pane.rows (p.line + 1) (pane.highlighted.drop (p.line - 1 + 1)) := by
    rw [hsplit, rows_append, rows, hnumber, hcaret]
    rfl
  exact ⟨_, _, hrows, (length_bodyRows_above he hnumber.le).trans hlen,
    caretRow_notMem_bodyRows he hnumber.le p.column⟩

/-- So the caret is shown just if the window reaches one row further than the line, and then right
below the line. -/
theorem visible_at_error (he : pane.error = some p) {pieces : List Highlight.Piece} {offset : Nat}
    (hp : pane.highlighted[p.line - 1]? = some pieces) (hone : 1 ≤ p.line)
    (ho : offset ≤ p.line - 1) (height : Nat) :
    (caretRow p.column ∈ pane.visible height offset ↔ p.line - offset < visibleRows height) ∧
      (caretRow p.column ∈ pane.visible height offset → ∃ above more,
        pane.visible height offset =
          above ++ pane.lineRow p.line pieces :: caretRow p.column :: more) := by
  obtain ⟨hlt, -⟩ := List.getElem?_eq_some_iff.mp hp
  obtain ⟨above, more, hrows, hlen, hnot⟩ := rows_at_error he hp hone ho
  have hvisible := pane.visible_eq_take (ho.trans hlt.le) height
  have hnot' : caretRow p.column ∉ above ++ [pane.lineRow p.line pieces] := by
    rw [List.mem_append, List.mem_singleton, not_or]
    exact ⟨hnot, (lineRow_ne_caretRow _ _ _ _).symm⟩
  have hshown : caretRow p.column ∈ pane.visible height offset ↔
      p.line - offset < visibleRows height := by
    rw [hvisible, hrows, ← List.singleton_append, ← List.append_assoc,
      mem_take_append_cons_iff hnot', List.length_append, hlen, List.length_singleton]
    omega
  refine ⟨hshown, fun hs => ?_⟩
  obtain ⟨k, hk⟩ := Nat.exists_eq_add_of_lt (hshown.mp hs)
  have htake : visibleRows height = above.length + (k + 2) := by omega
  refine ⟨above, more.take k, ?_⟩
  rw [hvisible, hrows, htake, List.take_length_add_append, List.take_succ_cons,
    List.take_succ_cons]

/-- **An error past the last line.**  The caret is below all lines. -/
theorem rows_past_end (he : pane.error = some p) {offset : Nat}
    (ho : offset ≤ pane.highlighted.length) (hp : pane.highlighted.length < p.line) :
    ∃ above, pane.rows (offset + 1) (pane.highlighted.drop offset) = above ++ [caretRow p.column] ∧
      above.length = pane.highlighted.length - offset ∧ caretRow p.column ∉ above := by
  have hlen : (pane.highlighted.drop offset).length = pane.highlighted.length - offset :=
    List.length_drop
  have habove : offset + 1 + (pane.highlighted.drop offset).length ≤ p.line := by omega
  have hrows := pane.rows_append (offset + 1) (pane.highlighted.drop offset) []
  have hcaret : pane.rows (offset + 1 + (pane.highlighted.drop offset).length) [] =
      [caretRow p.column] := by
    rw [rows, caretIf, he]
    exact if_pos (decide_eq_true habove)
  rw [List.append_nil, hcaret] at hrows
  exact ⟨_, hrows, (length_bodyRows_above he habove).trans hlen,
    caretRow_notMem_bodyRows he habove p.column⟩

end SourcePane

/-! ### Inspectors at the error -/

namespace Inspector

/-- The caret of an error at `p` is one of the rows that the source pane shows on a screen of the
given height. -/
def ShowsCaret (i : Inspector) (height : Nat) (p : Position) : Prop :=
  SourcePane.caretRow p.column ∈ i.sourcePane.visible (height - 1) i.sourceScroll

/-- The caret is shown right below the line of the error. -/
def ShowsCaretBelow (i : Inspector) (height : Nat) (p : Position) : Prop :=
  ∃ pieces above more, i.sourcePane.highlighted[p.line - 1]? = some pieces ∧
    i.sourcePane.visible (height - 1) i.sourceScroll =
      above ++ i.sourcePane.lineRow p.line pieces :: SourcePane.caretRow p.column :: more

variable {source : String} {i : Inspector} {p : Position} {height : Nat}

/-- On a line of the text, the caret is in the row behind that of the line. -/
theorem showsCaret_iff_of_le (he : i.inspection.errorLocation? = some p) (hone : 1 ≤ p.line)
    (hle : p.line ≤ lineCount i.source) (ho : i.sourceScroll ≤ p.line - 1) :
    (i.ShowsCaret height p ↔ p.line - i.sourceScroll < visibleRows (height - 1)) ∧
      (i.ShowsCaret height p → i.ShowsCaretBelow height p) := by
  have hlines : i.sourcePane.highlighted.length = lineCount i.source :=
    SourcePane.length_highlighted _ _
  obtain ⟨pieces, hget⟩ : ∃ pieces, i.sourcePane.highlighted[p.line - 1]? = some pieces :=
    ⟨_, List.getElem?_eq_getElem (by omega)⟩
  obtain ⟨hshown, hbelow⟩ := SourcePane.visible_at_error he hget hone ho (height - 1)
  refine ⟨hshown, fun hs => ?_⟩
  obtain ⟨above, more, hvisible⟩ := hbelow hs
  exact ⟨pieces, above, more, hget, hvisible⟩

/-- Past the last line, the caret is in the row behind all lines. -/
theorem showsCaret_iff_of_lt (he : i.inspection.errorLocation? = some p)
    (hlt : lineCount i.source < p.line) (ho : i.sourceScroll ≤ lineCount i.source) :
    i.ShowsCaret height p ↔ lineCount i.source - i.sourceScroll < visibleRows (height - 1) := by
  have hlines : i.sourcePane.highlighted.length = lineCount i.source :=
    SourcePane.length_highlighted _ _
  obtain ⟨above, hrows, hlen, hnot⟩ :=
    SourcePane.rows_past_end he (ho.trans hlines.ge) (hlines.trans_lt hlt)
  rw [ShowsCaret, i.sourcePane.visible_eq_take (ho.trans hlines.ge), hrows,
    SourcePane.mem_take_append_cons_iff hnot, hlen, hlines]

/-- **At the error.**  An inspector that stands there and is drawn shows the caret, unless the line
above the caret is in the last row. -/
theorem InBounds.showsCaret_iff (h : i.InBounds source) (hline : i.line = p.line)
    (hp : (Inspection.ofString source).errorLocation? = some p) (hrow : 5 ≤ height) :
    ((i.settle height).ShowsCaret height p ↔
        min p.line (lineCount source) ≠ (i.settle height).sourceScroll + (height - 3)) ∧
      ((i.settle height).ShowsCaret height p → p.line ≤ lineCount source →
        (i.settle height).ShowsCaretBelow height p) := by
  have he : (i.settle height).inspection.errorLocation? = some p := by
    rw [← hp, ← h.about.2]
    rfl
  have hsource : (i.settle height).source = source := h.about.1
  have hrows := visibleRows_of_le hrow
  obtain ⟨hone, hin⟩ := error_line hp
  by_cases hle : p.line ≤ lineCount source
  · obtain ⟨ho, hlt⟩ := h.settle_reveals (hline ▸ hle) height
    have hl : (i.settle height).line = p.line := hline
    rw [hl] at ho hlt
    obtain ⟨hiff, hbelow⟩ := @showsCaret_iff_of_le (i.settle height) p height he hone
      (hsource ▸ hle) ho
    refine ⟨?_, fun hs _ => hbelow hs⟩
    rw [hiff, min_eq_left hle]
    omega
  · obtain ⟨hpast, -, -⟩ := hin.resolve_left hle
    have hscroll : (i.settle height).sourceScroll = lineCount source - visibleRows (height - 1) := by
      rw [h.about.settle_sourceScroll, hline, hpast, Nat.add_sub_cancel,
        reveal_past_end (h.sourceScroll.trans (Nat.sub_le _ _)), max_visibleRows]
    have hiff := @showsCaret_iff_of_lt (i.settle height) p height he
      (hsource ▸ Nat.not_le.mp hle) (hsource ▸ hscroll ▸ Nat.sub_le _ _)
    refine ⟨?_, fun _ hl => absurd hl hle⟩
    rw [hiff, hsource, hscroll, min_eq_right (Nat.not_le.mp hle).le]
    omega

/-- The end of the window at the first drawing, where nothing was scrolled before. -/
theorem settle_ofString_end (hp : (Inspection.ofString source).errorLocation? = some p)
    (height : Nat) :
    ((ofString source).settle height).sourceScroll + visibleRows (height - 1) =
      max (visibleRows (height - 1)) (min p.line (lineCount source)) := by
  have hs : (ofString source).About source := about_after source []
  have hj := jumpToError_of_some ((about_start source).2 ▸ hp)
  have hscroll : (ofString source).sourceScroll = 0 := by rw [ofString_eq, hj, start]
  have hline : (ofString source).line = p.line := by rw [ofString_eq, hj]
  obtain ⟨hone, hin⟩ := error_line hp
  have hrow : p.line - 1 ≤ lineCount source := by
    rcases hin with hle | ⟨hpast, -⟩ <;> omega
  have hend := reveal_zero_add hrow (visibleRows (height - 1))
  rw [max_visibleRows, Nat.sub_add_cancel hone] at hend
  rw [hs.settle_sourceScroll, hscroll, hline, hend]

end Inspector

/-- **The caret on the screen.**  Let the error of a text be at `p`, and the source pane have two
rows for text at least.

* A fresh inspector shows the caret, when it is drawn, just if the line of the error, or the last
  line for an error past it, is one of the lines that fit above the last row of the pane.
* An inspector that is told to go to the error shows it, when it is drawn next, unless that line is
  then in the last row of the pane.
* A caret that is shown is right below the line of the error, if there is that line. -/
theorem caret_shown_iff (source : String) (acts : List Inspector.Act) (height : Nat) (p : Position)
    (hrow : 5 ≤ height) (hp : (Inspection.ofString source).errorLocation? = some p) :
    let lines := (Text.lines source.toList).length
    let fresh := (Inspector.ofString source).settle height
    let told := (((Inspector.ofString source).after acts).press (.char 'g')).settle height
    (fresh.ShowsCaret height p ↔ min p.line lines < height - 3) ∧
      (told.ShowsCaret height p ↔ min p.line lines ≠ told.sourceScroll + (height - 3)) ∧
      (p.line ≤ lines →
        (fresh.ShowsCaret height p → fresh.ShowsCaretBelow height p) ∧
          (told.ShowsCaret height p → told.ShowsCaretBelow height p)) := by
  intro lines fresh told
  have hs := Inspector.InBounds.start source
  have hi := Inspector.inBounds_after source acts
  obtain ⟨hfresh, hfresh'⟩ :=
    hs.jumpToError.showsCaret_iff (points_jumpToError hs.about hp).line hp hrow
  obtain ⟨htold, htold'⟩ := hi.jumpToError.showsCaret_iff (points_jumpToError hi.about hp).line hp hrow
  refine ⟨hfresh.trans ?_, htold, fun hle => ⟨fun h => hfresh' h hle, fun h => htold' h hle⟩⟩
  have hend := Inspector.settle_ofString_end hp height
  rw [visibleRows_of_le hrow] at hend
  rw [← Inspector.ofString_eq, hend, ne_comm, Ne, max_eq_right_iff]
  exact Nat.not_le

/-- In a pane of three rows, with an error on the second of two lines. -/
theorem caret_shown_second_line :
    ((Inspector.ofString "\n@").settle 6).ShowsCaretBelow 6 ⟨2, 1⟩ ∧
      ((((Inspector.ofString "\n@").after [.press .up, .draw 4]).press (.char 'g')).settle
        6).ShowsCaretBelow 6 ⟨2, 1⟩ := by
  obtain ⟨hfresh, htold, hbelow⟩ := caret_shown_iff "\n@" [.press .up, .draw 4] 6 ⟨2, 1⟩ (by decide)
    (by cbv)
  obtain ⟨hfresh', htold'⟩ := hbelow (by cbv)
  refine ⟨hfresh' (hfresh.mpr (by cbv)), htold' (htold.mpr ?_)⟩
  have hscroll : ((((Inspector.ofString "\n@").after [.press .up, .draw 4]).press
      (.char 'g')).settle 6).sourceScroll = 0 := by cbv
  rw [hscroll]
  decide

/-- With one row less, the pane shows both lines and no caret. -/
theorem caret_cut_off :
    let s := (Session.ofString "\n@" (.limited 40 5)).draw
    s.size.height = 5 ∧ s.inspector.inspection.errorLocation? = some ⟨2, 1⟩ ∧
      ¬ s.inspector.ShowsCaret 5 ⟨2, 1⟩ ∧
      ¬ (s.step (.press (.char 'g'))).inspector.ShowsCaret 5 ⟨2, 1⟩ := by
  refine ⟨by cbv, by cbv, fun hshows => ?_, fun hshows => ?_⟩
  · have hlt := (Inspector.showsCaret_iff_of_le (by cbv) (by decide) (by cbv) (by cbv)).1.mp hshows
    exact absurd hlt (Nat.not_lt.mpr (by cbv))
  · have hlt := (Inspector.showsCaret_iff_of_le (by cbv) (by decide) (by cbv) (by cbv)).1.mp hshows
    exact absurd hlt (Nat.not_lt.mpr (by cbv))

end SourceCheck
