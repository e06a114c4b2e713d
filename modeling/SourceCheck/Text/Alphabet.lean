/-!
# Text — the alphabet of the language

Letters and digits are the ASCII ones only.  Fourteen printable characters belong to no token
and are reported as invalid; any other character outside the alphabet is merely unexpected.
-/

namespace SourceCheck.Text

def isLetter (c : Char) : Bool :=
  c.isAlpha

def isDigit (c : Char) : Bool :=
  c.isDigit

/-- The first character of a word. -/
def isWordStart (c : Char) : Bool :=
  isLetter c || c == '_'

/-- A character inside a word. -/
def isWordPart (c : Char) : Bool :=
  isLetter c || isDigit c || c == '_'

/-- Both line feed and carriage return end a line comment. -/
def isLineEnd (c : Char) : Bool :=
  c == '\n' || c == '\r'

def isBlank (c : Char) : Bool :=
  c == ' ' || c == '\t' || isLineEnd c

/-- The printable characters that no token contains outside a string. -/
def invalidCharacters : List Char :=
  ['@', '$', '%', '&', '|', '^', '~', '?', '\x5c', '\x27', '[', ']', ',', '\x60']

def isInvalid (c : Char) : Bool :=
  invalidCharacters.contains c

theorem isWordPart_of_isWordStart {c : Char} (h : isWordStart c) : isWordPart c := by
  simp only [isWordStart, isWordPart, Bool.or_eq_true] at *
  rcases h with h | h <;> simp [h]

end SourceCheck.Text
