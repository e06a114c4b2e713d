import SourceCheck.Inspector.Palette
import SourceCheck.Inspector.Viewport
import SourceCheck.Screen.Picture
import SourceCheck.Text.Escape
import SourceCheck.Token.Basic

/-!
# Inspector — the token pane

The token pane lists the tokens of the text, one a row, with a last row when a flaw cut the scan
short.  The selected token's row is shaded and bold all across.
-/

namespace SourceCheck

open Screen (Style Line Picture Row)

structure TokenPane where
  tokens : List Token
  /-- The index of the selected token. -/
  selected : Nat
  stoppedEarly : Bool
  focused : Bool

namespace TokenPane

/-- A row of the list; its style lies below the whole row. -/
structure Entry where
  line : Line
  style : Style := .plain

/-- Position, kind and escaped lexeme in columns. -/
def tokenLine (t : Token) : Line :=
  [⟨(Nat.toDigits 10 t.location.line).leftpad 4 ' ' ++ [':'] ++
      (Nat.toDigits 10 t.location.column).rightpad 3 ' ' ++ [' '], .color Palette.grey⟩,
    ⟨t.kind.name.toList.rightpad 10 ' ' ++ [' '], .color (Palette.ofRole (.ofKind t.kind))⟩,
    ⟨Text.escape t.lexeme.toList, .color Palette.ink⟩]

theorem text_tokenLine (t : Token) :
    (tokenLine t).text =
      (Nat.toDigits 10 t.location.line).leftpad 4 ' ' ++ [':'] ++
        (Nat.toDigits 10 t.location.column).rightpad 3 ' ' ++ [' '] ++
        (t.kind.name.toList.rightpad 10 ' ' ++ [' ']) ++ Text.escape t.lexeme.toList := by
  simp [tokenLine, Line.text]

/-- The style of the selected row. -/
def selection : Style :=
  (Style.on .plain Palette.shade).heavy

def tokenEntry (pane : TokenPane) (index : Nat) (t : Token) : Entry where
  line := tokenLine t
  style := if index = pane.selected then selection else .plain

/-- The row that says why the list ends. -/
def stoppedEntry : Entry where
  line := [.ofString "  scanning stopped: lexical error" .plain]
  style := .color Palette.red

def entries (pane : TokenPane) : List Entry :=
  pane.tokens.mapIdx pane.tokenEntry ++ if pane.stoppedEarly then [stoppedEntry] else []

/-- The number of entries. -/
def size (pane : TokenPane) : Nat :=
  pane.tokens.length + if pane.stoppedEarly then 1 else 0

@[simp] theorem length_entries (pane : TokenPane) : pane.entries.length = pane.size := by
  cases h : pane.stoppedEarly <;> simp [entries, size, h]

/-- Whether there is nothing to list. -/
def isEmpty (pane : TokenPane) : Bool :=
  pane.tokens.isEmpty && !pane.stoppedEarly

/-- The first entry shown in a pane of the given height; an empty pane keeps the offset it had. -/
def scroll (pane : TokenPane) (height offset : Nat) : Nat :=
  if pane.isEmpty then offset
  else reveal offset pane.selected (visibleRows height) pane.size

/-- The entries shown from an offset on in a pane of the given height. -/
def visible (pane : TokenPane) (height offset : Nat) : List Entry :=
  (pane.entries.drop offset).take (visibleRows height)

def Entry.row (width : Nat) (e : Entry) : Row :=
  let look := e.style.apply {}
  Line.row .entry .left width look (.blank look) e.line

@[simp] theorem Entry.length_row (width : Nat) (e : Entry) : (e.row width).length = width := by
  rw [row, Line.length_row]

/-- The entries as a picture of the given size. -/
def list (width height : Nat) (entries : List Entry) : Picture :=
  let rows := (entries.take height).map (Entry.row width)
  rows ++ List.replicate (height - rows.length) (List.replicate width (.blank {}))

/-- Below the entries there are blank rows. -/
theorem getElem?_list {height k : Nat} (h : k < height) (width : Nat) (entries : List Entry) :
    (list width height entries)[k]? =
      some ((entries[k]?.map (Entry.row width)).getD (List.replicate width (.blank {}))) := by
  have hlen : ((entries.take height).map (Entry.row width)).length = min height entries.length := by
    rw [List.length_map, List.length_take]
  rcases Nat.lt_or_ge k entries.length with hk | hk
  · rw [list, List.getElem?_append_left (by omega), List.getElem?_map, List.getElem?_take_of_lt h,
      List.getElem?_eq_getElem hk]
    rfl
  · rw [list, List.getElem?_append_right (by omega), List.getElem?_replicate, if_pos (by omega),
      List.getElem?_eq_none hk]
    rfl

def title (pane : TokenPane) : String :=
  s!" Tokens ({pane.tokens.length}) "

def picture (pane : TokenPane) (width height offset : Nat) : Picture :=
  Screen.boxed width height ((Palette.border pane.focused).apply {}) pane.title
    (if pane.isEmpty then
      Screen.paragraph (width - 2) (height - 2) (.color Palette.grey) .left
        [[.ofString "(no tokens)" .plain]]
    else list (width - 2) (height - 2) (pane.visible height offset))

end TokenPane

end SourceCheck
