import SourceCheck.Text.Marks
import SourceCheck.Text.Printable

/-!
# Text — escapes

Two ways to write a text so that it shows on one line.  `asciiEscape` leaves only printable
ASCII; `escape` leaves every printable character of Unicode.  Both write the usual letters for
tab, carriage return and line feed, put a backslash before quotes and backslashes, and give any
other character by its number in braces.  A third way, `inertEscape`, leaves all but the controls
that a terminal may act on.
-/

namespace SourceCheck.Text

/-- The backslash escape by number: a `u` and the hexadecimal digits in braces. -/
def numericEscape (c : Char) : List Char :=
  ['\x5c', 'u', '\x7b'] ++ Nat.toDigits 16 c.toNat ++ ['\x7d']

/-- The backslash escape by letter, for the characters that have one in every text. -/
def letterEscape? : Char → Option (List Char)
  | '\t' => some ['\x5c', 't']
  | '\r' => some ['\x5c', 'r']
  | '\n' => some ['\x5c', 'n']
  | '\x27' => some ['\x5c', '\x27']
  | '\x22' => some ['\x5c', '\x22']
  | '\x5c' => some ['\x5c', '\x5c']
  | _ => none

/-- A character of an error message: printable ASCII stands for itself. -/
def asciiEscape (c : Char) : List Char :=
  match letterEscape? c with
  | some e => e
  | none => if ' ' ≤ c ∧ c ≤ '~' then [c] else numericEscape c

/-- A character of a listed lexeme: whatever is printable stands for itself. -/
def printableEscape (c : Char) : List Char :=
  if c = '\x00' then ['\x5c', '0']
  else match letterEscape? c with
    | some e => e
    | none => if isPrintable c then [c] else numericEscape c

/-- A lexeme on one line.  A combining mark that opens it has nothing to combine with, so it is
written by number. -/
def escape : List Char → List Char
  | [] => []
  | c :: cs =>
    (if isMark c then numericEscape c else printableEscape c) ++ cs.flatMap printableEscape

/-- The controls of ASCII that can be part of a command to a terminal: bell, backspace, form feed,
escape and delete. -/
def isTerminalControl (c : Char) : Bool :=
  c = '\x07' || c = '\x08' || c = '\x0c' || c = '\x1b' || c = '\x7f'

/-- A character of a log line: the controls of a terminal are written by number, those of ASCII
with two digits and no braces. -/
def inertEscape (c : Char) : List Char :=
  if isTerminalControl c then ['\x5c', 'x'] ++ (Nat.toDigits 16 c.toNat).leftpad 2 '0'
  else if 0x80 ≤ c.toNat ∧ c.toNat ≤ 0x9F then numericEscape c
  else [c]

/-- `escape` on strings. -/
def escapeString (s : String) : String :=
  String.ofList (escape s.toList)

end SourceCheck.Text
