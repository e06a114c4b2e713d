import SourceCheck.Diagnostic
import SourceCheck.Text.Alphabet

/-!
# Scan — the automaton

The scanner's control is a finite automaton.  `State.step` says what to do with the next
character and `State.atEnd` what to do when there is none; both are total tables that never
touch the text.  A `Move` that consumes a character names the state to go on in; one that does
not leaves the character for the next token.
-/

namespace SourceCheck.Scan

open Text (isDigit isWordStart isWordPart isLineEnd isBlank isInvalid)

inductive State where
  | start
  | word
  | integer
  | point
  | fraction
  | lineComment
  | slash
  | blockComment
  | blockCommentStar
  | string
  | less
  /-- After a `>`, `!` or `=`, which a further `=` makes a comparison of two characters. -/
  | compare (first : Char)
deriving DecidableEq

/-- What to do with the next character. -/
inductive Move where
  /-- Take it into the lexeme. -/
  | append (target : State)
  /-- Pass over it. -/
  | skip (target : State)
  /-- Pass over it, which ends a comment, and start afresh. -/
  | discard
  /-- Take it into the lexeme, which is then a token. -/
  | appendEmit (k : Kind)
  /-- Leave it: the lexeme is a token. -/
  | emit (k : Kind)
  /-- Pass over it: it is an error. -/
  | reject (f : Flaw)
  /-- Leave it: the character before it is an error. -/
  | fail (f : Flaw)
deriving DecidableEq

/-- Whether a move reads the character. -/
def Move.reads : Move → Bool
  | emit _ | fail _ => false
  | _ => true

/-- What to do at the end of the text. -/
inductive Ending where
  /-- The lexeme is a token. -/
  | emit (k : Kind)
  /-- The end itself is an error. -/
  | reject (f : Flaw)
  /-- The last character is an error. -/
  | fail (f : Flaw)
  /-- There are no more tokens. -/
  | finish
deriving DecidableEq

/-- The kind of a token that is a single character and no start of a longer one. -/
def singleKind? : Char → Option Kind
  | '+' | '-' | '*' => some .mathOperator
  | '(' => some .leftParen
  | ')' => some .rightParen
  | '\x7b' => some .leftBrace
  | '\x7d' => some .rightBrace
  | ':' => some .colon
  | ';' => some .semicolon
  | _ => none

/-- The kind of the token that a comparison character makes by itself. -/
def comparatorKind (first : Char) : Kind :=
  if first = '=' then .assign else .relOperator

namespace State

/-- The first character of a token, or what stands between tokens. -/
def begin (c : Char) : Move :=
  if isWordStart c then .append word
  else if isDigit c then .append integer
  else match c with
    | '.' => .append point
    | '<' => .append less
    | '>' | '!' | '=' => .append (compare c)
    | '#' => .skip lineComment
    | '/' => .append slash
    | '\x22' => .append string
    | _ =>
      match singleKind? c with
      | some k => .appendEmit k
      | none =>
        if isInvalid c then .reject (.invalidCharacter c)
        else if isBlank c then .skip start
        else .reject (.unexpectedCharacter c)

def step (s : State) (c : Char) : Move :=
  match s with
  | start => begin c
  | word => if isWordPart c then .append word else .emit .identifier
  | integer =>
    if isDigit c then .append integer
    else if c = '.' then .append point
    else .emit .intLiteral
  | point => if isDigit c then .append fraction else .fail .missingDigitAfterPoint
  | fraction =>
    if isDigit c then .append fraction
    else if c = '.' then .reject .extraDecimalPoint
    else .emit .floatLiteral
  | lineComment => if isLineEnd c then .discard else .skip lineComment
  | slash => if c = '*' then .skip blockComment else .emit .mathOperator
  | blockComment => if c = '*' then .skip blockCommentStar else .skip blockComment
  | blockCommentStar =>
    if c = '/' then .discard
    else if c = '*' then .skip blockCommentStar
    else .skip blockComment
  | string => if c = '\x22' then .appendEmit .stringLiteral else .append string
  | less =>
    if c = '=' then .appendEmit .relOperator
    else if c = '-' then .appendEmit .assign
    else .emit .relOperator
  | compare first => if c = '=' then .appendEmit .relOperator else .emit (comparatorKind first)

def atEnd : State → Ending
  | start | lineComment => .finish
  | word => .emit .identifier
  | integer => .emit .intLiteral
  | point => .fail .missingDigitAfterPoint
  | fraction => .emit .floatLiteral
  | slash => .emit .mathOperator
  | blockComment | blockCommentStar => .reject .unterminatedComment
  | string => .reject .unterminatedString
  | less => .emit .relOperator
  | compare first => .emit (comparatorKind first)

/-- At the start of a token no character is left unread. -/
theorem reads_begin (c : Char) : (begin c).reads = true := by
  unfold begin
  split
  · rfl
  split
  · rfl
  split
  all_goals try rfl
  split
  · rfl
  split
  · rfl
  split <;> rfl

theorem begin_ne {m : Move} (c : Char) (h : m.reads = false) : begin c ≠ m := by
  rintro rfl
  rw [reads_begin] at h
  cases h

end State

end SourceCheck.Scan
