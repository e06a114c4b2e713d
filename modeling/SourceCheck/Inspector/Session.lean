import SourceCheck.Inspector.Basic
import SourceCheck.Screen.Size

/-!
# Inspector — sessions

A session is an inspector on a screen of some size.  The screen is drawn before each input is
taken and again after it, unless the input ended the session.
-/

namespace SourceCheck

/-- What can happen to an inspector on its screen. -/
inductive Input where
  | press (k : Key)
  /-- Anything else that wakes the inspector without being a key press. -/
  | idle
  | resize (size : Screen.Size)

structure Session where
  inspector : Inspector
  size : Screen.Size

namespace Session

def ofString (source : String) (size : Screen.Size) : Session :=
  ⟨.ofString source, size⟩

def draw (s : Session) : Session :=
  { s with inspector := s.inspector.settle s.size.height }

/-- Draw again, unless the inspector has quit. -/
def redraw (s : Session) : Session :=
  if s.inspector.quit then s else s.draw

def step (s : Session) : Input → Session
  | .press k => redraw { s.draw with inspector := s.draw.inspector.press k }
  | .idle => s.draw.redraw
  | .resize size => draw { s with size := size }

def picture (s : Session) : Screen.Picture :=
  s.inspector.picture s.size.width s.size.height

end Session

end SourceCheck
