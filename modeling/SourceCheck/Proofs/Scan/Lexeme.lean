import Mathlib
import SourceCheck.Diagnostic
import SourceCheck.Text.Alphabet

/-!
# Scan — lexemes, gaps and flaws

What a text is made of, without the automaton.

* `Lexeme k l`: the text `l` is in the language of the kind `k`.  `Ends k l rest`: the text that
  follows does not prolong it.
* `Gap g`: blanks and closed comments, as they stand between two tokens.  `LastGap g`: the same
  at the end of a text, where a line comment needs no line end.
* `Flawed f upto taken rest`: the text `taken ++ rest` begins with neither.  The flaw `f` lies
  behind `upto`, and a scan goes on at `rest`.
-/

namespace SourceCheck.Scan

open Text (isDigit isWordStart isWordPart isLineEnd isBlank isInvalid)

/-! ### Lexemes -/

/-- A word: a letter or an underscore, then letters, digits and underscores. -/
def Word : List Char → Prop
  | [] => False
  | c :: cs => isWordStart c = true ∧ ∀ d ∈ cs, isWordPart d = true

instance : (l : List Char) → Decidable (Word l)
  | [] => instDecidableFalse
  | c :: cs =>
    decidable_of_iff (isWordStart c = true ∧ cs.all isWordPart = true)
      (and_congr_right' List.all_eq_true)

/-- Some digits, or none. -/
def Digits (ds : List Char) : Prop :=
  ∀ d ∈ ds, isDigit d = true

instance (ds : List Char) : Decidable (Digits ds) :=
  decidable_of_iff (ds.all isDigit = true) List.all_eq_true

/-- The operators of arithmetic. -/
def signs : List Char := ['+', '-', '*', '/']

def comparisons : List String := ["<", "<=", ">", ">=", "==", "!=", "!"]

def assignments : List String := ["<-", "="]

/-- The language of each kind of token. -/
inductive Lexeme : Kind → List Char → Prop where
  | identifier {l : List Char} (hw : Word l)
      (hr : ∀ k ∈ Kind.keywords, k.spelling? ≠ some (String.ofList l)) : Lexeme .identifier l
  | spelled {k : Kind} {s : String} (h : k.spelling? = some s) : Lexeme k s.toList
  | integer {ds : List Char} (hd : Digits ds) (hn : ds ≠ []) : Lexeme .intLiteral ds
  | float {ds fs : List Char} (hd : Digits ds) (hf : Digits fs) (hn : fs ≠ []) :
      Lexeme .floatLiteral (ds ++ '.' :: fs)
  | string {body : List Char} (h : '\x22' ∉ body) :
      Lexeme .stringLiteral ('\x22' :: (body ++ ['\x22']))
  | math {c : Char} (h : c ∈ signs) : Lexeme .mathOperator [c]
  | relation {s : String} (h : s ∈ comparisons) : Lexeme .relOperator s.toList
  | assign {s : String} (h : s ∈ assignments) : Lexeme .assign s.toList

/-- Whether the character `c` behind the lexeme `l` would be read with it. -/
def prolongs (k : Kind) (l : List Char) (c : Char) : Bool :=
  match k with
  | .identifier => isWordPart c
  | .intLiteral | .floatLiteral => isDigit c || c == '.'
  | .mathOperator => l == ['/'] && c == '*'
  | .relOperator | .assign =>
    if l = ['<'] then c == '=' || c == '-'
    else (l == ['>'] || l == ['!'] || l == ['=']) && c == '='
  | _ => k.isKeyword && isWordPart c

/-- The text behind a lexeme does not prolong it. -/
def Ends (k : Kind) (l rest : List Char) : Prop :=
  ∀ c ∈ rest.head?, prolongs k l c = false

/-! ### Gaps -/

/-- The two characters that close a block comment. -/
def commentEnd : List Char := ['*', '/']

/-- A blank, or a comment with what closes it. -/
inductive Trivium : List Char → Prop where
  | blank {c : Char} (h : isBlank c = true) : Trivium [c]
  /-- A line comment reaches to the first line end. -/
  | lineComment {body : List Char} {c : Char} (hb : ∀ d ∈ body, isLineEnd d = false)
      (hc : isLineEnd c = true) : Trivium ('#' :: (body ++ [c]))
  /-- A block comment reaches to the first `*/` behind its opening. -/
  | blockComment {body : List Char} (h : ¬ commentEnd <:+: body ++ ['*']) :
      Trivium ('/' :: '*' :: (body ++ commentEnd))

/-- What stands between two tokens. -/
inductive Gap : List Char → Prop where
  | nil : Gap []
  | cons {a g : List Char} (ha : Trivium a) (hg : Gap g) : Gap (a ++ g)

/-- What stands behind the last token. -/
inductive LastGap : List Char → Prop where
  | closed {g : List Char} (hg : Gap g) : LastGap g
  | unclosed {g body : List Char} (hg : Gap g) (hb : ∀ d ∈ body, isLineEnd d = false) :
      LastGap (g ++ '#' :: body)

/-! ### Flaws -/

/-- A character that begins neither a token nor anything that stands between tokens. -/
def Stray (c : Char) : Prop :=
  ∀ cs, ¬ Trivium (c :: cs) ∧ ∀ k, ¬ Lexeme k (c :: cs)

/-- How a stray character is reported. -/
def strayFlaw (c : Char) : Flaw :=
  if isInvalid c then .invalidCharacter c else .unexpectedCharacter c

/-- A text that can begin with no token and no gap. -/
inductive Flawed : Flaw → List Char → List Char → List Char → Prop where
  | stray {c : Char} {rest : List Char} (h : Stray c) : Flawed (strayFlaw c) [] [c] rest
  | point {ds rest : List Char} (hd : Digits ds) (hr : ∀ c ∈ rest.head?, isDigit c = false) :
      Flawed .missingDigitAfterPoint ds (ds ++ ['.']) rest
  | secondPoint {ds fs rest : List Char} (hd : Digits ds) (hf : Digits fs) (hn : fs ≠ []) :
      Flawed .extraDecimalPoint (ds ++ '.' :: fs) (ds ++ '.' :: fs ++ ['.']) rest
  | string {body : List Char} (h : '\x22' ∉ body) :
      Flawed .unterminatedString ('\x22' :: body) ('\x22' :: body) []
  | comment {body : List Char} (h : ¬ commentEnd <:+: body) :
      Flawed .unterminatedComment ('/' :: '*' :: body) ('/' :: '*' :: body) []

end SourceCheck.Scan
