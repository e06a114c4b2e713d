import SourceCheck.Screen.Layout

/-!
# Screen — pictures

A picture is its rows, all of one width, and pictures are put together side by side, one above the
other, or inside a border.
-/

namespace SourceCheck.Screen

abbrev Picture := List Row

/-- Lines of text, one a row, on a background of one style. -/
def paragraph (width height : Nat) (style : Style) (align : Alignment) (lines : List Line) :
    Picture :=
  let look := style.apply {}
  let rows := (lines.take height).map (Line.row .paragraph align width look (.blank look))
  rows ++ List.replicate (height - rows.length) (List.replicate width (.blank look))

@[simp] theorem length_paragraph (width height : Nat) (style : Style) (align : Alignment)
    (lines : List Line) : (paragraph width height style align lines).length = height := by
  simp only [paragraph, List.length_append, List.length_map, List.length_take,
    List.length_replicate]
  omega

theorem length_of_mem_paragraph {width height : Nat} {style : Style} {align : Alignment}
    {lines : List Line} {row : Row} (h : row ∈ paragraph width height style align lines) :
    row.length = width := by
  rcases List.mem_append.1 h with h | h
  · obtain ⟨line, -, rfl⟩ := List.mem_map.1 h
    exact Line.length_row _ _ _ _ _ line
  · rw [List.eq_of_mem_replicate h, List.length_replicate]

def beside (a b : Picture) : Picture :=
  List.zipWith (· ++ ·) a b

theorem getElem?_beside {a b : Picture} {k : Nat} {row row' : Row} (h : a[k]? = some row)
    (h' : b[k]? = some row') : (beside a b)[k]? = some (row ++ row') := by
  rw [beside, List.getElem?_zipWith, h, h']

/-- A row between its two edges; one column alone is the left edge. -/
def edged (look : Look) (left right : Char) (width : Nat) (middle : Row) : Row :=
  match width with
  | 0 => []
  | 1 => [.glyph [left] look]
  | _ + 2 => .glyph [left] look :: middle ++ [.glyph [right] look]

theorem edged_of_two_le {width : Nat} (h : 2 ≤ width) (look : Look) (left right : Char)
    (middle : Row) :
    edged look left right width middle =
      .glyph [left] look :: (middle ++ [.glyph [right] look]) := by
  obtain ⟨n, rfl⟩ := Nat.exists_eq_add_of_le' h
  rfl

theorem length_edged {width : Nat} {middle : Row} (h : middle.length = width - 2) (look : Look)
    (left right : Char) : (edged look left right width middle).length = width := by
  rcases width with _ | _ | n
  · rfl
  · rfl
  · rw [edged, List.cons_append, List.length_cons, List.length_append, h]
    rfl

/-- A picture inside a border with a title in its upper edge.  One row alone is the upper edge;
the picture inside is two columns and two rows smaller. -/
def boxed (width height : Nat) (look : Look) (title : String) (inner : Picture) : Picture :=
  let rule : Cell := .glyph ['─'] look
  let top := edged look '┌' '┐' width
    (Line.row .paragraph .left (width - 2) look rule [.ofString title .plain])
  match height with
  | 0 => []
  | 1 => [top]
  | _ + 2 =>
    top :: inner.map (edged look '│' '│' width) ++
      [edged look '└' '┘' width (List.replicate (width - 2) rule)]

/-- The rows inside the border are below its upper edge. -/
theorem getElem?_boxed {width height k : Nat} {inner : Picture} {row : Row} (h : 2 ≤ height)
    (hk : inner[k]? = some row) (look : Look) (title : String) :
    (boxed width height look title inner)[k + 1]? = some (edged look '│' '│' width row) := by
  obtain ⟨n, rfl⟩ := Nat.exists_eq_add_of_le' h
  have hmap : (inner.map (edged look '│' '│' width))[k]? = some (edged look '│' '│' width row) := by
    rw [List.getElem?_map, hk, Option.map_some]
  rw [boxed, List.cons_append, List.getElem?_cons_succ,
    List.getElem?_append_left (List.getElem?_eq_some_iff.1 hmap).1, hmap]

end SourceCheck.Screen
