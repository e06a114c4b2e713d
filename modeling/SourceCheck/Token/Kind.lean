/-!
# Token — kinds

The closed vocabulary of the language.  A keyword or a punctuation mark has one spelling; the
other kinds are classes of spellings.  Operators are grouped by role, so `mathOperator` covers
all four signs and the grammar looks at the lexeme to tell sums from products.
-/

namespace SourceCheck

inductive Kind where
  | identifier
  | intType | floatType | print | input | ifWord | thenWord | elseWord | forWord | main | var
  | and | or
  | intLiteral | floatLiteral | stringLiteral
  | mathOperator | relOperator | assign
  | leftParen | rightParen | leftBrace | rightBrace | colon | semicolon
deriving DecidableEq

namespace Kind

/-- The name that listings and diagnostics use. -/
def name : Kind → String
  | identifier    => "IDENT"
  | intType       => "INT_TYPE"
  | floatType     => "FLOAT_TYPE"
  | print         => "PRINT"
  | input         => "INPUT"
  | ifWord        => "IF"
  | thenWord      => "THEN"
  | elseWord      => "ELSE"
  | forWord       => "FOR"
  | main          => "MAIN"
  | var           => "VAR"
  | and           => "AND"
  | or            => "OR"
  | intLiteral    => "INT_LIT"
  | floatLiteral  => "FLOAT_LIT"
  | stringLiteral => "STRING"
  | mathOperator  => "MATH"
  | relOperator   => "RELOP"
  | assign        => "ASSIGN"
  | leftParen     => "LPAREN"
  | rightParen    => "RPAREN"
  | leftBrace     => "LBRACE"
  | rightBrace    => "RBRACE"
  | colon         => "COLON"
  | semicolon     => "SEMI"

/-- The one spelling of a keyword or punctuation mark. -/
def spelling? : Kind → Option String
  | intType    => some "int"
  | floatType  => some "float"
  | print      => some "print"
  | input      => some "input"
  | ifWord     => some "if"
  | thenWord   => some "then"
  | elseWord   => some "else"
  | forWord    => some "for"
  | main       => some "main"
  | var        => some "var"
  | and        => some "AND"
  | or         => some "OR"
  | leftParen  => some "("
  | rightParen => some ")"
  | leftBrace  => some "\x7b"
  | rightBrace => some "\x7d"
  | colon      => some ":"
  | semicolon  => some ";"
  | _          => none

/-- The kind as a diagnostic names it: with its spelling, if it has one. -/
def describe (k : Kind) : String :=
  match k.spelling? with
  | some s => k.name ++ " '" ++ s ++ "'"
  | none => k.name

/-! ### Reserved words -/

/-- The kinds whose spelling is a reserved word. -/
def keywords : List Kind :=
  [intType, floatType, print, input, ifWord, thenWord, elseWord, forWord, main, var, and, or]

def isKeyword (k : Kind) : Bool :=
  keywords.contains k

/-- The keyword spelled exactly `word`; letter case matters. -/
def ofWord? (word : String) : Option Kind :=
  keywords.find? fun k => k.spelling? == some word

/-- The kind of a scanned word: its keyword, or else an identifier. -/
def ofWord (word : String) : Kind :=
  (ofWord? word).getD identifier

/-- A word is reserved just when it is the spelling of a keyword. -/
theorem ofWord?_eq_some_iff {word : String} {k : Kind} :
    ofWord? word = some k ↔ k ∈ keywords ∧ k.spelling? = some word := by
  constructor
  · intro h
    exact ⟨List.mem_of_find?_eq_some h, by simpa using List.find?_some h⟩
  · rintro ⟨hk, hs⟩
    simp only [keywords, List.mem_cons, List.not_mem_nil, or_false] at hk
    rcases hk with rfl | rfl | rfl | rfl | rfl | rfl | rfl | rfl | rfl | rfl | rfl | rfl <;>
      (cases hs; decide)

end Kind

end SourceCheck
