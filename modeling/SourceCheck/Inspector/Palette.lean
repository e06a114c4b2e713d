import SourceCheck.Inspector.Highlight
import SourceCheck.Screen.Style

/-!
# Inspector — colours

The colours of the inspector, by what they are for.
-/

namespace SourceCheck.Palette

open Screen (Color Style)

def ink : Color := .rgb 205 214 244
def blue : Color := .rgb 137 180 250
def orange : Color := .rgb 250 179 135
def grey : Color := .rgb 108 112 134
def green : Color := .rgb 166 227 161
def red : Color := .rgb 243 139 168
def pink : Color := .rgb 245 194 231
def teal : Color := .rgb 148 226 213
def yellow : Color := .rgb 249 226 175

/-- The background of the current line and of the status bar. -/
def shade : Color := .rgb 50 50 70

/-- The colour that shows a role, alike in every pane. -/
def ofRole : Role → Color
  | .plain => ink
  | .comment => grey
  | .string => green
  | .number => orange
  | .typeName => teal
  | .keyword => blue
  | .operator => pink
  | .bracket => blue

/-- The border of a pane stands out when the pane has the focus. -/
def border (focused : Bool) : Style :=
  if focused then (Style.color yellow).heavy else .color grey

end SourceCheck.Palette
