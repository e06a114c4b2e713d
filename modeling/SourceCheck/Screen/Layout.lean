import SourceCheck.Screen.Style
import SourceCheck.Text.Cluster
import SourceCheck.Text.Width

/-!
# Screen — lines in cells

A line of styled text is laid out in cells from the left, as far as there is room, cluster by
cluster.  A cluster takes the cell it starts in and covers as many more as it is wide.  Texts flow
in two ways, which differ in what becomes of clusters without width and of clusters that are wider
than the whole line.
-/

namespace SourceCheck.Screen

/-- A piece of text in one style. -/
structure Span where
  text : List Char
  style : Style := .plain

def Span.ofString (text : String) (style : Style) : Span :=
  ⟨text.toList, style⟩

abbrev Line := List Span

/-- The text of a line without its styles. -/
def Line.text (line : Line) : List Char :=
  line.flatMap Span.text

inductive Cell where
  /-- What is shown: a cluster, and what shares its cell. -/
  | glyph (symbol : List Char) (look : Look)
  /-- Covered by the wide cluster to the left; it has no look of its own. -/
  | covered
deriving DecidableEq

namespace Cell

def blank (look : Look) : Cell :=
  .glyph [' '] look

/-- What the cell shows; a covered cell counts as a space. -/
def symbol : Cell → List Char
  | glyph symbol _ => symbol
  | covered => [' ']

def look : Cell → Look
  | glyph _ look => look
  | covered => {}

/-- Characters without width added to what the cell shows. -/
def append (marks : List Char) (style : Style) : Cell → Cell
  | glyph symbol look => glyph (symbol ++ marks) (style.apply look)
  | covered => covered

end Cell

abbrev Row := List Cell

/-- How lines are laid out. -/
inductive Flow where
  /-- Clusters without width are left out, and so are those wider than the line; what a cluster
  covers keeps the background of the paragraph. -/
  | paragraph
  /-- Clusters without width share the last cell before them, a cluster that does not fit ends the
  line, and what a cluster covers loses the background of the entry. -/
  | entry
deriving DecidableEq

/-! ### Clusters -/

/-- The cells that a cluster of the given width takes.  The first one it covers shows nothing of
its own; the others are blanks with the look of what lies below. -/
def clusterCells (look below : Look) (symbol : List Char) : Nat → List Cell
  | 0 => []
  | 1 => [.glyph symbol look]
  | w + 2 => .glyph symbol look :: .covered :: List.replicate w (.blank below)

@[simp] theorem length_clusterCells (look below : Look) (symbol : List Char) (w : Nat) :
    (clusterCells look below symbol w).length = w := by
  rcases w with _ | _ | w <;> simp [clusterCells]

/-- Characters without width added to the last cell of a cluster. -/
def appendMarks (marks : List Char) (style : Style) : List Cell → List Cell
  | [] => []
  | [cell] => [if marks.isEmpty then cell else cell.append marks style]
  | cell :: cells => cell :: appendMarks marks style cells

@[simp] theorem length_appendMarks (marks : List Char) (style : Style) (cells : List Cell) :
    (appendMarks marks style cells).length = cells.length := by
  fun_induction appendMarks marks style cells <;> simp_all

/-- The characters without width at the beginning of some clusters. -/
def leadingMarks (clusters : List (List Char)) : List Char :=
  (clusters.takeWhile fun g => Text.width g == 0).flatten

namespace Flow

/-- Whether a cluster of some width is passed over on a line. -/
def passes (flow : Flow) (line w : Nat) : Bool :=
  w == 0 || (flow == paragraph && line < w)

/-- The cells of a cluster that the given clusters follow. -/
def cells (flow : Flow) (base : Look) (style : Style) (symbol : List Char)
    (after : List (List Char)) : List Cell :=
  match flow with
  | paragraph => clusterCells (style.apply base) base symbol (Text.width symbol)
  | entry =>
    appendMarks (leadingMarks after) style
      (clusterCells (style.apply base) {} symbol (Text.width symbol))

@[simp] theorem length_cells (flow : Flow) (base : Look) (style : Style) (symbol : List Char)
    (after : List (List Char)) :
    (flow.cells base style symbol after).length = Text.width symbol := by
  cases flow <;> simp [cells]

/-- The cells of clusters in the given room of a line, and the room left, or `none` if a cluster
did not fit. -/
def layClusters (flow : Flow) (base : Look) (style : Style) (line : Nat) :
    Nat → List (List Char) → List Cell × Option Nat
  | room, [] => ([], some room)
  | room, g :: gs =>
    if flow.passes line (Text.width g) then layClusters flow base style line room gs
    else if Text.width g ≤ room then
      let (cells, left) := layClusters flow base style line (room - Text.width g) gs
      (flow.cells base style g gs ++ cells, left)
    else ([], none)

/-! ### Spans and lines -/

/-- The clusters of a text that are to be shown; a line feed is not. -/
def shown (text : List Char) : List (List Char) :=
  (Text.clusters text).filter (· ≠ ['\n'])

/-- The cells of clusters at the beginning of an entry's text.  Clusters without width have no
cell before them there; they are shown with the cluster that follows, or in its place if it does
not fit. -/
def layFirst (base : Look) (style : Style) (line room : Nat) (clusters : List (List Char)) :
    List Cell × Option Nat :=
  let marks := leadingMarks clusters
  match clusters.dropWhile fun g => Text.width g == 0 with
  | [] => ([], some room)
  | g :: gs =>
    if 0 < room ∧ room < Text.width g ∧ marks ≠ [] then ([.glyph marks (style.apply base)], none)
    else entry.layClusters base style line room ((marks ++ g) :: gs)

/-- The cells of a text in the given room of a line, and the room left, or `none` if a cluster did
not fit.  A text of an entry that has no width is not shown at all. -/
def layText (flow : Flow) (base : Look) (style : Style) (line room : Nat) (text : List Char) :
    List Cell × Option Nat :=
  match flow with
  | paragraph => paragraph.layClusters base style line room (shown text)
  | entry =>
    if Text.width text = 0 then ([], some room)
    else layFirst base style line room (shown text)

/-- The cells of a line in the given room: the line is cut at the first cluster that does not
fit. -/
def layLine (flow : Flow) (base : Look) (line : Nat) : Nat → Line → List Cell
  | _, [] => []
  | room, span :: spans =>
    match flow.layText base span.style line room span.text with
    | (cells, some left) => cells ++ layLine flow base line left spans
    | (cells, none) => cells

theorem length_layClusters (flow : Flow) (base : Look) (style : Style) (line room : Nat)
    (clusters : List (List Char)) :
    (flow.layClusters base style line room clusters).1.length +
      ((flow.layClusters base style line room clusters).2.getD 0) ≤ room := by
  induction clusters generalizing room with
  | nil => simp [layClusters]
  | cons g gs ih =>
    unfold layClusters
    split
    · exact ih room
    · split
      · have := ih (room - Text.width g)
        simp only [List.length_append, length_cells]
        omega
      · simp

theorem length_layFirst (base : Look) (style : Style) (line room : Nat)
    (clusters : List (List Char)) :
    (layFirst base style line room clusters).1.length +
      ((layFirst base style line room clusters).2.getD 0) ≤ room := by
  simp only [layFirst]
  split
  · simp
  · split
    · next h => simpa [Nat.one_le_iff_ne_zero, Nat.pos_iff_ne_zero] using h.1
    · exact length_layClusters _ _ _ _ _ _

theorem length_layText (flow : Flow) (base : Look) (style : Style) (line room : Nat)
    (text : List Char) :
    (flow.layText base style line room text).1.length +
      ((flow.layText base style line room text).2.getD 0) ≤ room := by
  cases flow with
  | paragraph => exact length_layClusters _ _ _ _ _ _
  | entry =>
    simp only [layText]
    split
    · simp
    · exact length_layFirst _ _ _ _ _

theorem length_layLine (flow : Flow) (base : Look) (line room : Nat) (spans : Line) :
    (flow.layLine base line room spans).length ≤ room := by
  induction spans generalizing room with
  | nil => simp [layLine]
  | cons span spans ih =>
    have bound := flow.length_layText base span.style line room span.text
    unfold layLine
    split
    · next cells left h =>
      rw [h] at bound
      have := ih left
      simp only [List.length_append, Option.getD_some] at bound ⊢
      omega
    · next cells h =>
      rw [h] at bound
      simpa using bound

end Flow

inductive Alignment where
  | left | right

/-- A line as a row of exactly the given width, padded with a filler. -/
def Line.row (flow : Flow) (align : Alignment) (width : Nat) (base : Look) (filler : Cell)
    (line : Line) : Row :=
  let cells := flow.layLine base width width line
  let pad := List.replicate (width - cells.length) filler
  match align with
  | .left => cells ++ pad
  | .right => pad ++ cells

@[simp] theorem Line.length_row (flow : Flow) (align : Alignment) (width : Nat) (base : Look)
    (filler : Cell) (line : Line) :
    (Line.row flow align width base filler line).length = width := by
  have := flow.length_layLine base width width line
  cases align <;>
    simp only [Line.row, List.length_append, List.length_replicate] <;>
    omega

end SourceCheck.Screen
