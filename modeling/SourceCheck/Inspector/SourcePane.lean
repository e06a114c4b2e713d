import SourceCheck.Inspector.Palette
import SourceCheck.Inspector.Viewport
import SourceCheck.Screen.Picture
import SourceCheck.Text.Lines
import SourceCheck.Text.Position

/-!
# Inspector — the source pane

The source pane shows the lines of the text behind a gutter with their numbers.  An arrow marks
the current line, and below the line of the error a caret stands under its column.  An error past
the last line has its caret below all lines.  The pane shows a window of this: it goes down the
lines, passes over those above, and makes rows until it is full.
-/

namespace SourceCheck

open Screen (Color Style Span Line Picture)

structure SourcePane where
  source : String
  /-- The current line, counted from one. -/
  current : Nat
  error : Option Position
  focused : Bool

namespace SourcePane

/-- The marker, the line number in four places, and a blank. -/
def gutter (isCurrent : Bool) (number : Nat) : List Char :=
  (if isCurrent then '▶' else ' ') :: (Nat.toDigits 10 number).leftpad 4 ' ' ++ [' ']

def gutterStyle (isError isCurrent : Bool) : Style :=
  if isError then (Style.color Palette.red).heavy
  else if isCurrent then (Style.color Palette.orange).heavy
  else .color Palette.grey

/-- A piece of code; keywords are bold, and the current line is shaded. -/
def pieceSpan (isCurrent : Bool) (p : Highlight.Piece) : Span :=
  let style := Style.color (Palette.ofRole p.role)
  let style := if p.role = .keyword then style.heavy else style
  ⟨p.text, if isCurrent then style.on Palette.shade else style⟩

/-- The row below the line of an error, for a gutter of six columns. -/
def caretRow (column : Nat) : Line :=
  [⟨List.replicate (6 + (column - 1)) ' ', .plain⟩,
    .ofString "^" (Style.color Palette.red).heavy,
    .ofString " here" ((Style.color .white).on Palette.red)]

/-- The row of a line of code. -/
def lineRow (pane : SourcePane) (number : Nat) (pieces : List Highlight.Piece) : Line :=
  let isCurrent := number == pane.current
  let isError := pane.error.any fun p => p.line == number
  ⟨gutter isCurrent number, gutterStyle isError isCurrent⟩ :: pieces.map (pieceSpan isCurrent)

/-- The caret, if the error is on a line of the given kind. -/
def caretIf (pane : SourcePane) (here : Nat → Bool) : List Line :=
  match pane.error with
  | some p => if here p.line then [caretRow p.column] else []
  | none => []

/-- The rows of a window that has some room left, onto the given lines, the first of which has the
given number; as many of them as `above` says are above the window.  A caret takes room like any
other row. -/
def window (pane : SourcePane) :
    (room above number : Nat) → List (List Highlight.Piece) → List Line
  | 0, _, _, _ => []
  | _ + 1, _, number, [] => pane.caretIf (number ≤ ·)
  | room + 1, above + 1, number, _ :: more => window pane (room + 1) above (number + 1) more
  | room + 1, 0, number, pieces :: more =>
    let caret := (pane.caretIf (· == number)).take room
    lineRow pane number pieces ::
      (caret ++ window pane (room - caret.length) 0 (number + 1) more)

/-- The lines of the text in pieces.  A comment can begin above the window, so all lines are cut in
order, from the first one on. -/
def highlighted (pane : SourcePane) : List (List Highlight.Piece) :=
  Highlight.lines false (Text.lines pane.source.toList)

/-- The first line shown in a pane of the given height, counted from zero. -/
def scroll (pane : SourcePane) (height offset : Nat) : Nat :=
  reveal offset (pane.current - 1) (visibleRows height) (Text.lines pane.source.toList).length

/-- The rows shown from an offset on in a pane of the given height. -/
def visible (pane : SourcePane) (height offset : Nat) : List Line :=
  pane.window (visibleRows height) offset 1 pane.highlighted

def picture (pane : SourcePane) (width height offset : Nat) : Picture :=
  Screen.boxed width height ((Palette.border pane.focused).apply {}) " Source Code "
    (Screen.paragraph (width - 2) (height - 2) .plain .left (pane.visible height offset))

end SourcePane

end SourceCheck
