import SourceCheck.Proofs.Inspector.Agreement
import SourceCheck.Proofs.Inspector.CurrentLine

/-!
# Inspector — the source pane is a window

There is one list of all that a source pane can show: a block of rows for each line of the text, and
behind them the caret of an error past the last line.

* `block`, `blocks`: the block of a line is its row and, if the error is on the line, the caret.
* `rows_eq_flatten`: what there is to show from some line on are the blocks from that line on.
* `inks_lineRow`: texts and colours in a row are those of the pieces of its line.  What these are is
  settled by the lines above, of which only an open block comment matters.
* `source_pane_window`: so what the pane shows is a part of that list, and the offset and the height
  only say which.
-/

namespace SourceCheck

open Screen (Color Span Line)

namespace SourcePane

variable (pane : SourcePane)

/-! ### Blocks -/

/-- The caret is there just if there is an error on a line of the given kind. -/
theorem caretIf_eq_elim {here : Nat → Bool} {p : Nat → Prop} [DecidablePred p]
    (h : ∀ line, here line = true ↔ p line) :
    pane.caretIf here =
      pane.error.elim [] fun e => if p e.line then [caretRow e.column] else [] := by
  unfold caretIf
  cases pane.error with
  | none => rfl
  | some e => exact if_congr (h e.line) rfl rfl

/-- The rows of one line. -/
def block (number : Nat) (pieces : List Highlight.Piece) : List Line :=
  pane.lineRow number pieces :: pane.caretIf (· == number)

/-- The rows of each line of the text. -/
def blocks : List (List Line) :=
  pane.highlighted.mapIdx fun n pieces => pane.block (n + 1) pieces

theorem length_blocks : pane.blocks.length = (Text.lines pane.source.toList).length := by
  rw [blocks, List.length_mapIdx, highlighted, length_highlighted]

theorem bodyRows_eq_flatten (number : Nat) (ls : List (List Highlight.Piece)) :
    pane.bodyRows number ls =
      (ls.mapIdx fun n pieces => pane.block (number + n) pieces).flatten := by
  induction ls generalizing number with
  | nil => rfl
  | cons pieces ls ih =>
      have hnext : (fun n pieces => pane.block (number + (n + 1)) pieces) =
          fun n pieces => pane.block (number + 1 + n) pieces := by
        funext n pieces
        rw [Nat.add_comm n 1, Nat.add_assoc]
      rw [bodyRows, ih, List.mapIdx_cons, List.flatten_cons, hnext]
      rfl

/-- The blocks from some line on are numbered from there. -/
theorem drop_blocks (offset : Nat) :
    pane.blocks.drop offset =
      (pane.highlighted.drop offset).mapIdx fun n pieces => pane.block (offset + 1 + n) pieces := by
  refine List.ext_getElem? fun n => ?_
  rw [blocks, List.getElem?_drop, List.getElem?_mapIdx, List.getElem?_mapIdx, List.getElem?_drop,
    Nat.add_right_comm]

/-- **From some line on**, there are the blocks of the lines and the caret behind them. -/
theorem rows_eq_flatten {offset : Nat} (h : offset ≤ pane.highlighted.length) :
    pane.rows (offset + 1) (pane.highlighted.drop offset) =
      (pane.blocks.drop offset).flatten ++ pane.caretIf (pane.highlighted.length < ·) := by
  have happend := pane.rows_append (offset + 1) (pane.highlighted.drop offset) []
  have hend : offset + 1 + (pane.highlighted.drop offset).length = pane.highlighted.length + 1 := by
    rw [List.length_drop]
    omega
  rwa [List.append_nil, bodyRows_eq_flatten, ← drop_blocks, hend, rows] at happend

/-- Drawing scrolls no further than to the end of the lines. -/
theorem scroll_le (height offset : Nat) : pane.scroll height offset ≤ pane.highlighted.length := by
  rw [highlighted, length_highlighted]
  exact (reveal_le _ _ _ _).trans (Nat.sub_le _ _)

/-! ### Spans -/

/-- What a span shows, the background and the weight apart. -/
def ink (s : Span) : List Char × Option Color :=
  (s.text, s.style.foreground)

/-- The current line has the same texts and colours as any other. -/
theorem ink_pieceSpan (isCurrent : Bool) (p : Highlight.Piece) :
    ink (pieceSpan isCurrent p) = (p.text, some (Palette.ofRole p.role)) := by
  unfold ink pieceSpan
  cases isCurrent <;> by_cases h : p.role = .keyword <;>
    simp [h, Screen.Style.color, Screen.Style.heavy, Screen.Style.on]

theorem inks_lineRow (number : Nat) (pieces : List Highlight.Piece) :
    ∃ g spans, pane.lineRow number pieces = g :: spans ∧
      g.text = gutter (number == pane.current) number ∧
      spans.map ink = pieces.map fun p => (p.text, some (Palette.ofRole p.role)) := by
  refine ⟨_, _, rfl, rfl, ?_⟩
  rw [List.map_map]
  exact List.map_congr_left fun p _ => ink_pieceSpan _ p

/-- The text of a row is its gutter and its line. -/
theorem text_lineRow (number : Nat) (inside : Bool) (l : List Char) :
    Line.text (pane.lineRow number (Highlight.line inside l).1) =
      gutter (number == pane.current) number ++ l := by
  have hspans : Line.text ((Highlight.line inside l).1.map (pieceSpan (number == pane.current))) =
      l := by
    rw [Line.text, List.flatMap_map]
    exact Highlight.flatMap_text_line inside l
  rw [lineRow, Line.text, List.flatMap_cons]
  exact congrArg _ hspans

end SourcePane

open SourcePane (ink gutter caretRow)

/-- **The source pane is a window** of what there is to show of a text, for any current line, error,
offset before and height.

* Drawn from the offset it scrolls to, it shows the first rows, as many as fit, of the blocks from
  there on, followed by the caret of an error past the last line.
* There is a block for each line of the text: the row of the line, and the caret just if the error
  is on the line.
* Behind its number, a row has the texts and colours that the line has when all lines are
  highlighted in order from the first one on; together they are the line. -/
theorem source_pane_window (pane : SourcePane) (height offset : Nat) :
    let ls := Text.lines pane.source.toList
    let o := pane.scroll height offset
    pane.visible height o =
        ((pane.blocks.drop o).flatten ++
          pane.error.elim [] fun e =>
            if ls.length < e.line then [caretRow e.column] else []).take (visibleRows height) ∧
      pane.blocks.length = ls.length ∧
      ∀ n l, ls[n]? = some l → ∃ g spans,
        pane.blocks[n]? = some ((g :: spans) ::
          pane.error.elim [] fun e => if e.line = n + 1 then [caretRow e.column] else []) ∧
        g.text = gutter (n + 1 == pane.current) (n + 1) ∧
        Line.text spans = l ∧
        spans.map ink =
          (Highlight.line (Highlight.insideBefore ls n) l).1.map
            fun p => (p.text, some (Palette.ofRole p.role)) := by
  intro ls o
  have hlen : pane.highlighted.length = ls.length := SourcePane.length_highlighted _ _
  refine ⟨?_, pane.length_blocks, fun n l hl => ?_⟩
  · rw [pane.visible_eq_take (pane.scroll_le height offset), pane.rows_eq_flatten
      (pane.scroll_le height offset), hlen, pane.caretIf_eq_elim fun line => decide_eq_true_iff]
  · have hpieces : pane.highlighted[n]? = some (Highlight.line (Highlight.insideBefore ls n) l).1 :=
      Highlight.getElem?_lines hl
    obtain ⟨g, spans, hrow, hg, hinks⟩ :=
      pane.inks_lineRow (n + 1) (Highlight.line (Highlight.insideBefore ls n) l).1
    have htext := pane.text_lineRow (n + 1) (Highlight.insideBefore ls n) l
    rw [hrow, Line.text, List.flatMap_cons, hg] at htext
    refine ⟨g, spans, ?_, hg, List.append_cancel_left htext, hinks⟩
    rw [SourcePane.blocks, List.getElem?_mapIdx, hpieces, Option.map_some, SourcePane.block, hrow,
      pane.caretIf_eq_elim fun line => beq_iff_eq]

end SourceCheck
