import SourceCheck.Inspector.Inspection
import SourceCheck.Inspector.SourcePane
import SourceCheck.Inspector.StatusBar
import SourceCheck.Inspector.TokenPane

/-!
# Inspector

The inspector holds a text, what there is to show about it, and where the user is: the focused
pane, the current line, the selected token, and how far each pane is scrolled.  Keys move about;
drawing settles the scroll offsets for the size drawn at.
-/

namespace SourceCheck

/-- The pane that the arrow keys move in. -/
inductive Focus where
  | source | tokens
deriving DecidableEq

def Focus.other : Focus → Focus
  | source => tokens
  | tokens => source

/-- The keys the inspector tells apart. -/
inductive Key where
  | up | down | tab | escape
  | char (c : Char)
  | other
deriving DecidableEq

/-- A key by its name; a character is its own name. -/
def Key.ofName (name : String) : Key :=
  match name with
  | "up" => up
  | "down" => down
  | "tab" => tab
  | "esc" => escape
  | _ =>
    match name.toList with
    | [c] => char c
    | _ => other

inductive Direction where
  | up | down

/-- One step up, which stops at zero, or down. -/
def Direction.step : Direction → Nat → Nat
  | up, n => n - 1
  | down, n => n + 1

structure Inspector where
  source : String
  inspection : Inspection
  focus : Focus := .source
  /-- The current line, counted from one. -/
  line : Nat := 1
  /-- The index of the selected token. -/
  token : Nat := 0
  sourceScroll : Nat := 0
  tokenScroll : Nat := 0
  quit : Bool := false

/-- The index of the last element that satisfies `p`. -/
def lastIdx? {α : Type} (p : α → Bool) : List α → Option Nat
  | [] => none
  | a :: as =>
    match lastIdx? p as with
    | some i => some (i + 1)
    | none => if p a then some 0 else none

namespace Inspector

/-- Go to the line of the error and select the last token that does not start after it. -/
def jumpToError (i : Inspector) : Inspector :=
  match i.inspection.errorLocation? with
  | none => i
  | some p =>
    { i with
      line := p.line
      token := (lastIdx? (fun t => t.location ≤ p) i.inspection.tokens).getD 0 }

/-- A fresh inspector stands at the error, if there is one. -/
def ofString (source : String) : Inspector :=
  jumpToError { source := source, inspection := .ofString source }

/-! ### Keys -/

/-- The number of the last line that can be gone to. -/
def lastLine (i : Inspector) : Nat :=
  max 1 (Text.lines i.source.toList).length

def moveLine (d : Direction) (i : Inspector) : Inspector :=
  { i with line := max 1 (min (d.step i.line) i.lastLine) }

/-- Select the neighbouring token; the current line goes along. -/
def moveToken (d : Direction) (i : Inspector) : Inspector :=
  let token := min (d.step i.token) (i.inspection.tokens.length - 1)
  match i.inspection.tokens[token]? with
  | some t => { i with token := token, line := t.location.line }
  | none => { i with token := token }

def move (d : Direction) (i : Inspector) : Inspector :=
  match i.focus with
  | .source => i.moveLine d
  | .tokens => i.moveToken d

def press (k : Key) (i : Inspector) : Inspector :=
  match k with
  | .up => i.move .up
  | .down => i.move .down
  | .tab => { i with focus := i.focus.other }
  | .escape | .char 'q' | .char 'Q' => { i with quit := true }
  | .char 'g' => i.jumpToError
  | .char _ | .other => i

/-! ### Drawing -/

def sourcePane (i : Inspector) : SourcePane where
  source := i.source
  current := i.line
  error := i.inspection.errorLocation?
  focused := i.focus == .source

def tokenPane (i : Inspector) : TokenPane where
  tokens := i.inspection.tokens
  selected := i.token
  stoppedEarly := i.inspection.stoppedEarly
  focused := i.focus == .tokens

def statusBar (i : Inspector) : StatusBar where
  verdict := i.inspection.verdict
  message := i.inspection.summary

/-- The inspector after it has been drawn on a screen of the given height: each pane is scrolled
so that it shows its current row. -/
def settle (height : Nat) (i : Inspector) : Inspector :=
  { i with
    sourceScroll := i.sourcePane.scroll (height - 1) i.sourceScroll
    tokenScroll := i.tokenPane.scroll (height - 1) i.tokenScroll }

/-- A settled inspector on a screen: the two panes side by side above the status bar. -/
def picture (width height : Nat) (i : Inspector) : Screen.Picture :=
  Screen.beside
    (i.sourcePane.picture (leftShare width) (height - 1) i.sourceScroll)
    (i.tokenPane.picture (width - leftShare width) (height - 1) i.tokenScroll) ++
  i.statusBar.picture width (min height 1)

end Inspector

end SourceCheck
