import SourceCheck.Diagnostic
import SourceCheck.Inspector.Palette
import SourceCheck.Screen.Picture

/-!
# Inspector — the status bar

The left part of the bar shows the verdict as a badge and in words, the right part the keys.  The
inspector gives three fifths of any width, rounded to the nearest column, to the part on the left.
-/

namespace SourceCheck

open Screen (Style Span Line Picture)

/-- The width of the left one of two parts. -/
def leftShare (width : Nat) : Nat :=
  (6 * width + 5) / 10

structure StatusBar where
  verdict : Verdict
  message : String

namespace StatusBar

def background : Style :=
  Style.on .plain Palette.shade

def verdictLine (bar : StatusBar) : Line :=
  let badge := if bar.verdict.isOk then Palette.green else Palette.red
  let words := if bar.verdict.isOk then Palette.ink else Palette.red
  [.ofString bar.verdict.label ((Style.color .black).on badge).heavy,
    .ofString " | " ((Style.color Palette.grey).on Palette.shade),
    .ofString (" " ++ bar.message ++ " ") ((Style.color words).on Palette.shade)]

/-- The keys and what they do. -/
def helpLine : Line :=
  let key (s : String) : Span := .ofString s ((Style.color .black).on Palette.grey)
  let word (s : String) : Span := .ofString s ((Style.color Palette.ink).on Palette.shade)
  let rule : Span := .ofString "│" ((Style.color Palette.grey).on Palette.shade)
  [key " ↑/↓ ", word " move ", rule, word " ", key " ⇥ ", word " focus ", rule, word " ",
    key " g ", word " error ", rule, word " ", key "q", word " quit "]

def picture (bar : StatusBar) (width height : Nat) : Picture :=
  Screen.beside
    (Screen.paragraph (leftShare width) height background .left [bar.verdictLine])
    (Screen.paragraph (width - leftShare width) height background .right [helpLine])

end StatusBar

end SourceCheck
