import SourceCheck.Text.Position

/-!
# Text — the reader

A reader stands somewhere in a text: it holds the characters still ahead, the position of the
next one, and the position of the last one it took.  Looking ahead does not move it, so a
character that ends a token is simply left in place and no position is ever undone.
-/

namespace SourceCheck

structure Reader where
  /-- The characters not yet read. -/
  rest : List Char
  /-- The position of the next character. -/
  here : Position := .origin
  /-- The position of the last character read, if any was. -/
  last : Option Position := none
deriving DecidableEq

namespace Reader

/-- A reader at the start of a text. -/
def ofString (source : String) : Reader where
  rest := source.toList

/-- The next character, left where it is. -/
def peek (r : Reader) : Option Char :=
  r.rest.head?

/-- The reader behind the next character; at the end of the text it stays where it is. -/
def advance (r : Reader) : Reader :=
  match r.rest with
  | [] => r
  | c :: cs => ⟨cs, r.here.next c, some r.here⟩

/-- The position of the last character read; the start of the text if none was. -/
def lastRead (r : Reader) : Position :=
  r.last.getD .origin

@[simp] theorem peek_nil (p : Position) (l : Option Position) : (Reader.mk [] p l).peek = none :=
  rfl

@[simp] theorem peek_cons (c : Char) (cs : List Char) (p : Position) (l : Option Position) :
    (Reader.mk (c :: cs) p l).peek = some c := rfl

@[simp] theorem advance_nil (p : Position) (l : Option Position) :
    (Reader.mk [] p l).advance = ⟨[], p, l⟩ := rfl

@[simp] theorem advance_cons (c : Char) (cs : List Char) (p : Position) (l : Option Position) :
    (Reader.mk (c :: cs) p l).advance = ⟨cs, p.next c, some p⟩ := rfl

theorem rest_advance (r : Reader) : r.advance.rest = r.rest.tail := by
  cases r with
  | mk rest here last => cases rest <;> rfl

end Reader

end SourceCheck
