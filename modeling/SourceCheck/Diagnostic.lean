import SourceCheck.Text.Escape
import SourceCheck.Token.Basic

/-!
# Diagnostics

A run stops at its first error.  A lexical error is a flaw in the text at a position; a syntax
error is a mismatch between what the grammar expects and the token found, or the end of the
input, which has no position.
-/

namespace SourceCheck

/-! ### Lexical errors -/

/-- What can be wrong with a text before it has tokens. -/
inductive Flaw where
  | invalidCharacter (c : Char)
  | unexpectedCharacter (c : Char)
  | missingDigitAfterPoint
  | extraDecimalPoint
  | unterminatedString
  | unterminatedComment
deriving DecidableEq

def Flaw.message : Flaw → String
  | invalidCharacter c => s!"invalid character '{c}'"
  | unexpectedCharacter c => "unexpected character '" ++ String.ofList (Text.asciiEscape c) ++ "'"
  | missingDigitAfterPoint => "malformed number: missing digit after decimal point"
  | extraDecimalPoint => "malformed number: extra decimal point in float"
  | unterminatedString => "unterminated string literal"
  | unterminatedComment => "end of input reached before the comment was closed"

structure LexicalError where
  flaw : Flaw
  location : Position
deriving DecidableEq

namespace LexicalError

def message (e : LexicalError) : String :=
  e.flaw.message

def describe (e : LexicalError) : String :=
  "Lexical error at " ++ e.location.describe ++ ": " ++ e.message

end LexicalError

/-! ### Syntax errors -/

/-- What the grammar can ask for at one place. -/
inductive Expectation where
  | kind (k : Kind)
  | typeName
  | factor
  | command
  | endOfInput
deriving DecidableEq

def Expectation.describe : Expectation → String
  | kind k => k.describe
  | typeName => "type (INT_TYPE 'int' or FLOAT_TYPE 'float')"
  | factor => "IDENT, INT_LIT, FLOAT_LIT or LPAREN '('"
  | command => "a command (input, print, if or assignment)"
  | endOfInput => "end of input"

/-- A syntax error in words; it has no location when the input ended too early. -/
structure SyntaxError where
  message : String
  location : Option Position
deriving DecidableEq

namespace SyntaxError

def describe (e : SyntaxError) : String :=
  match e.location with
  | some p => "Syntax error at " ++ p.describe ++ ": " ++ e.message
  | none => "Syntax error: " ++ e.message

end SyntaxError

/-- An expectation that the next token, or the end of the input, does not meet. -/
structure Mismatch where
  expected : Expectation
  found : Option Token
deriving DecidableEq

namespace Mismatch

/-- The token found, or the words for the end of the input. -/
def foundText (m : Mismatch) : String :=
  match m.found with
  | some t => t.describe
  | none => "end of input"

def toSyntaxError (m : Mismatch) : SyntaxError where
  message := "expected " ++ m.expected.describe ++ ", found " ++ m.foundText
  location := m.found.map Token.location

end Mismatch

/-! ### The first error of a run -/

inductive Diagnostic where
  | lexical (e : LexicalError)
  | syntactic (e : SyntaxError)
deriving DecidableEq

namespace Diagnostic

def location? : Diagnostic → Option Position
  | lexical e => some e.location
  | syntactic e => e.location

/-- The error without its location. -/
def message : Diagnostic → String
  | lexical e => e.message
  | syntactic e => e.message

/-- The error with its location, if it has one. -/
def describe : Diagnostic → String
  | lexical e => e.describe
  | syntactic e => e.describe

def isLexical : Diagnostic → Bool
  | lexical _ => true
  | syntactic _ => false

end Diagnostic

/-- The result of a check: nothing to report, or the first error. -/
abbrev Verdict := Except Diagnostic Unit

namespace Verdict

def location? : Verdict → Option Position
  | .ok () => none
  | .error d => d.location?

/-- The verdict as a badge. -/
def label : Verdict → String
  | .ok () => " SUCCESS "
  | .error (.lexical _) => " LEXICAL ERROR "
  | .error (.syntactic _) => " SYNTAX ERROR "

end Verdict

end SourceCheck
