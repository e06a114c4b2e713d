/-!
# Screen — styles

The look of a cell is its two colours and its weight.  A style changes some of that and leaves
the rest as it is; where styles meet, the later one wins in what it sets.
-/

namespace SourceCheck.Screen

inductive Color where
  /-- The terminal's own colour. -/
  | reset
  | black
  | white
  | rgb (red green blue : UInt8)
deriving DecidableEq

/-- How a cell looks. -/
structure Look where
  foreground : Color := .reset
  background : Color := .reset
  bold : Bool := false
deriving DecidableEq

/-- A change of look. -/
structure Style where
  foreground : Option Color := none
  background : Option Color := none
  bold : Bool := false
deriving DecidableEq

namespace Style

/-- The style that changes nothing. -/
def plain : Style := {}

def color (c : Color) : Style where
  foreground := some c

/-- The same style on a background. -/
def on (s : Style) (c : Color) : Style :=
  { s with background := some c }

/-- The same style in bold. -/
def heavy (s : Style) : Style :=
  { s with bold := true }

def apply (s : Style) (l : Look) : Look where
  foreground := s.foreground.getD l.foreground
  background := s.background.getD l.background
  bold := s.bold || l.bold

@[simp] theorem apply_plain (l : Look) : plain.apply l = l := by
  simp [apply, plain]

@[simp] theorem apply_color (c : Color) (l : Look) :
    (color c).apply l = { l with foreground := c } := by
  simp [apply, color]

end Style

end SourceCheck.Screen
