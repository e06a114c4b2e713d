import SourceCheck.Proofs.Inspector.Caret
import SourceCheck.Proofs.Inspector.Window
import SourceCheck.Proofs.Scan.FirstFlaw

/-!
# Inspector — the column of the caret

In the row of a line the text stands behind a gutter, which has six characters as long as four are
enough for the line number.  The row of the caret is made for a gutter of six.

* `length_gutter_eq_six_iff`: a gutter has six characters just if the number has at most four
  digits.
* `lt_of_caretRow_mem`: a window that shows the caret shows the line of the error.
* `caret_under_column_iff`: so the caret is under its column just if the number of the line has four
  digits at most.
-/

namespace SourceCheck

open Screen (Line)

namespace SourcePane

variable {pane : SourcePane} {p : Position}

theorem length_gutter (isCurrent : Bool) (number : Nat) :
    (gutter isCurrent number).length = max 4 (Nat.toDigits 10 number).length + 2 := by
  rw [gutter, List.length_append, List.length_cons, List.length_leftpad, List.length_singleton]

theorem length_gutter_eq_six_iff (isCurrent : Bool) (number : Nat) :
    (gutter isCurrent number).length = 6 ↔ number < 10000 := by
  have hdigits : (Nat.toDigits 10 number).length ≤ 4 ↔ number < 10 ^ 4 :=
    Nat.length_toDigits_le_iff (by decide) (by decide)
  rw [length_gutter]
  omega

/-- There are only blanks in front of the caret. -/
theorem idxOf_caretRow (column : Nat) :
    (Line.text (caretRow column)).idxOf '^' = 6 + (column - 1) := by
  have hblanks : '^' ∉ List.replicate (6 + (column - 1)) ' ' := fun h =>
    absurd (List.eq_of_mem_replicate h) (by decide)
  rw [caretRow, Line.text, List.flatMap_cons, List.idxOf_append_of_notMem hblanks,
    List.length_replicate]
  rfl

/-- A window shows the caret of an error on a line of the text only if it begins above the caret. -/
theorem lt_of_caretRow_mem (he : pane.error = some p) (hle : p.line ≤ pane.highlighted.length)
    {offset : Nat} (ho : offset ≤ pane.highlighted.length) {height : Nat}
    (h : caretRow p.column ∈ pane.visible height offset) : offset < p.line := by
  rw [pane.visible_eq_take ho, pane.rows_eq_flatten ho] at h
  rcases List.mem_append.mp (List.mem_of_mem_take h) with hblocks | hend
  · obtain ⟨rows, hrows, hmem⟩ := List.mem_flatten.mp hblocks
    obtain ⟨k, hk⟩ := List.mem_iff_getElem?.mp hrows
    rw [List.getElem?_drop, blocks, List.getElem?_mapIdx] at hk
    obtain ⟨pieces, -, rfl⟩ := Option.map_eq_some_iff.mp hk
    rcases List.mem_cons.mp hmem with hline | hcaret
    · exact absurd hline.symm (lineRow_ne_caretRow _ _ _ _)
    · by_contra hlt
      rw [caretIf_of_ne he (by omega)] at hcaret
      cases hcaret
  · rw [caretIf_eq_nil he (decide_eq_false hle.not_gt)] at hend
    cases hend

end SourcePane

open SourcePane (caretRow gutter)

/-- **The caret under its column.**  Let the error be on a line of the text, and the source pane
show the caret when it is drawn.  Then the row above the caret is the gutter and the line of the
error, and the caret has the index in its row that the character in the column of the error, or the
end of the line, has in the row above, just if the number of the line is less than 10000. -/
theorem caret_under_column_iff (pane : SourcePane) (height offset : Nat) {p : Position}
    {l : List Char} (he : pane.error = some p) (hone : 1 ≤ p.line)
    (hl : (Text.lines pane.source.toList)[p.line - 1]? = some l)
    (hshown : caretRow p.column ∈ pane.visible height (pane.scroll height offset)) :
    ∃ above row more,
      pane.visible height (pane.scroll height offset) =
        above ++ row :: caretRow p.column :: more ∧
      Line.text row = gutter (p.line == pane.current) p.line ++ l ∧
      ((Line.text (caretRow p.column)).idxOf '^' =
          (gutter (p.line == pane.current) p.line).length + (p.column - 1) ↔
        p.line < 10000) := by
  obtain ⟨hlt, -⟩ := List.getElem?_eq_some_iff.mp hl
  have hlen : pane.highlighted.length = (Text.lines pane.source.toList).length :=
    SourcePane.length_highlighted _ _
  have ho := SourcePane.lt_of_caretRow_mem he (by omega) (pane.scroll_le height offset) hshown
  have hget := Highlight.getElem?_lines hl
  obtain ⟨above, more, hvisible⟩ :=
    (SourcePane.visible_at_error he hget hone (Nat.le_sub_one_of_lt ho) height).2 hshown
  refine ⟨above, _, more, hvisible, pane.text_lineRow _ _ _, ?_⟩
  rw [SourcePane.idxOf_caretRow, Nat.add_right_cancel_iff, eq_comm,
    SourcePane.length_gutter_eq_six_iff]

/-- An error in the second of two lines, behind two blanks. -/
theorem caret_under_column_second_line :
    let pane : SourcePane := ⟨"x\n  @", 2, some ⟨2, 3⟩, true⟩
    ∃ above row more,
      pane.visible 5 (pane.scroll 5 0) = above ++ row :: caretRow 3 :: more ∧
      Line.text row = gutter true 2 ++ [' ', ' ', '@'] ∧
      (Line.text (caretRow 3)).idxOf '^' = (gutter true 2).length + 2 := by
  intro pane
  have hshown : (pane.visible 5 (pane.scroll 5 0))[2]? = some (caretRow 3) := by cbv
  obtain ⟨above, row, more, hvisible, htext, hiff⟩ :=
    caret_under_column_iff pane 5 0 (p := ⟨2, 3⟩) (l := [' ', ' ', '@']) rfl (by decide) (by cbv)
      (List.mem_of_getElem? hshown)
  exact ⟨above, row, more, hvisible, htext, hiff.mpr (by decide)⟩

/-! ### A text of many lines -/

theorem Text.lines_newlines (n : Nat) (rest : List Char) :
    lines (List.replicate n '\n' ++ rest) = List.replicate n [] ++ lines rest := by
  induction n with
  | zero => rfl
  | succ n ih =>
      rw [List.replicate_succ, List.cons_append, lines_newline, ih, List.replicate_succ,
        List.cons_append]

theorem Position.counted_newlines (n : Nat) : counted (List.replicate n '\n') = ⟨1 + n, 1⟩ := by
  cases n with
  | zero => rfl
  | succ n => simp [counted, List.replicate_succ']

theorem Scan.gap_newlines (n : Nat) : Gap (List.replicate n '\n') := by
  induction n with
  | zero => exact .nil
  | succ n ih => exact .cons (.blank rfl) ih

/-- A flaw at the beginning of a text is its error. -/
theorem check_of_fault {source : String} {e : LexicalError}
    (h : TokenStream.ofString source = .fault e) : check source = .error (.lexical e) := by
  have hd := check_decided source
  rw [h] at hd
  generalize check source = verdict at hd
  cases hd with
  | accepted hf => cases hf
  | ended hf => cases hf
  | refused ht => simp [TokenStream.tokens] at ht
  | flaw hf =>
      obtain rfl := Option.some.inj hf
      rfl

/-- A stray character behind line feeds only. -/
theorem errorLocation_behind_newlines (n : Nat) {c : Char} (hc : Scan.Stray c) (rest : List Char) :
    (Inspection.ofString (String.ofList (List.replicate n '\n' ++ c :: rest))).errorLocation? =
      some ⟨1 + n, 1⟩ := by
  have hstream : TokenStream.ofString (String.ofList (List.replicate n '\n' ++ c :: rest)) =
      .fault ⟨Scan.strayFlaw c, ⟨1 + n, 1⟩⟩ := by
    rw [TokenStream.ofString, Reader.ofString_eq_between, String.toList_ofList,
      Scan.ofReader_gap (Scan.gap_newlines n), ← List.singleton_append,
      (Scan.Flawed.stray hc).stream, List.nil_append, List.append_nil, Position.counted_newlines]
  rw [Inspection.ofString, Inspection.errorLocation?, check_of_fault hstream]
  rfl

/-- On line 10000 the caret is one character too far to the left: the sign is the eighth character
of its row, and the caret the seventh of the row below. -/
theorem caret_left_of_column :
    let source := String.ofList (List.replicate 9999 '\n' ++ ['@', '\n', '\n'])
    let pane : SourcePane := ⟨source, 10001, (Inspection.ofString source).errorLocation?, true⟩
    pane.error = some ⟨10000, 1⟩ ∧
      ∃ above row more,
        pane.visible 6 (pane.scroll 6 0) = above ++ row :: caretRow 1 :: more ∧
        Line.text row = " 10000 @".toList ∧
        (Line.text row).idxOf '@' = 7 ∧ (Line.text (caretRow 1)).idxOf '^' = 6 := by
  intro source pane
  have hstray : Scan.Stray '@' :=
    Scan.stray_of_begin (show Scan.State.begin '@' = .reject (.invalidCharacter '@') from rfl)
  have he : pane.error = some ⟨10000, 1⟩ := errorLocation_behind_newlines 9999 hstray _
  have hlines : Text.lines pane.source.toList = List.replicate 9999 [] ++ [['@'], []] := by
    rw [String.toList_ofList, Text.lines_newlines]
    rfl
  have hl : (Text.lines pane.source.toList)[9999]? = some ['@'] := by
    rw [hlines, List.getElem?_append_right List.length_replicate.le, List.length_replicate]
    rfl
  have hscroll : pane.scroll 6 0 = 9997 := by
    rw [SourcePane.scroll, hlines, List.length_append, List.length_replicate]
    rfl
  obtain ⟨hiff, hbelow⟩ := SourcePane.visible_at_error he (Highlight.getElem?_lines hl) (by decide)
    (show 9997 ≤ 9999 by decide) 6
  obtain ⟨above, more, hvisible⟩ := hbelow (hiff.mpr (by decide))
  have htext := pane.text_lineRow 10000
    (Highlight.insideBefore (Text.lines pane.source.toList) 9999) ['@']
  refine ⟨he, above, _, more, hscroll ▸ hvisible, htext, ?_, SourcePane.idxOf_caretRow 1⟩
  rw [htext]
  decide

end SourceCheck
