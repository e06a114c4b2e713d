import SourceCheck.Log

/-!
# Grammar — symbols and how they meet a token

The grammar of the language, written with the groups that a leading parenthesis opens:

    program      := MAIN '{' [varSection] commands '}'
    varSection   := VAR '{' (IDENT ':' type ';')* '}'
    commands     := (INPUT '(' IDENT ')' ';' | PRINT '(' argument ')' ';'
                     | IF condition THEN '{' commands '}' | IDENT ASSIGN expression ';')*
    argument     := STRING | expression
    condition    := group | clause
    group        := '(' clause ')'
    clause       := relation ((AND | OR) (group | relation))*
    relation     := expression [RELOP expression]
    expression   := term (('+' | '-') term)*
    term         := factor (('*' | '/') factor)*
    factor       := IDENT | INT_LIT | FLOAT_LIT | '(' expression ')'

A condition, and an operand after `AND` or `OR`, that starts with a parenthesis is always a
group: one token decides.  What remains to be read is a stack of symbols.  A symbol meets a
token in one of four ways (`Reaction`), and none of them replaces a symbol without either
reading the token or being done, so a token is dealt with in one pass down the stack.
-/

namespace SourceCheck.Grammar

inductive Symbol where
  /-- Not read: an event to log once everything above it has been read. -/
  | note (e : Event)
  | terminal (k : Kind)
  | varSection
  | declarations
  | typeName
  | commands
  | printArgument
  | factor
  /-- The rest of a term: further factors. -/
  | productTail
  /-- The rest of an expression: further terms. -/
  | sumTail
  | condition
  /-- What `AND` or `OR` joins on: a group or a relation. -/
  | operand
  /-- The rest of a relation: its second side, if any. -/
  | relationTail
  /-- The rest of a clause: further operands. -/
  | clauseTail

namespace Symbol

def expression : List Symbol :=
  [factor, productTail, sumTail]

def clause : List Symbol :=
  expression ++ [relationTail, clauseTail]

/-- What follows the opening parenthesis of a group. -/
def groupTail : List Symbol :=
  clause ++ [terminal .rightParen]

/-- A whole program, with the events that open it. -/
def program : List Symbol :=
  [note .parseStarted, note (.rule .program), terminal .main, terminal .leftBrace, varSection,
    commands, terminal .rightBrace]

end Symbol

/-- How a symbol meets a token. -/
inductive Reaction where
  /-- Log an event; the token is for the symbol below. -/
  | log (e : Event)
  /-- Read nothing; the token is for the symbol below. -/
  | pass
  /-- Log some events and read the token; the given symbols are still to come. -/
  | read (events : List Event) (next : List Symbol)
  /-- The token cannot stand here. -/
  | refuse (e : Expectation)

/-- The same reaction with more symbols to come after it. -/
def Reaction.andThen (more : List Symbol) : Reaction → Reaction
  | read events next => read events (next ++ more)
  | other => other

namespace Symbol

/-- A factor that is no parenthesised expression. -/
def meetAtom (t : Token) : Reaction :=
  match t.kind with
  | .identifier | .intLiteral | .floatLiteral => .read [] []
  | _ => .refuse .factor

def meetFactor (t : Token) : Reaction :=
  if t.kind = .leftParen then .read [] (expression ++ [terminal .rightParen]) else meetAtom t

def meetCommand (t : Token) : Reaction :=
  match t.kind with
  | .input =>
    .read [.rule .inputStatement]
      [terminal .leftParen, terminal .identifier, terminal .rightParen, terminal .semicolon,
        commands]
  | .print =>
    .read [.rule .printStatement]
      [terminal .leftParen, printArgument, terminal .rightParen, terminal .semicolon, commands]
  | .ifWord =>
    .read [.rule .ifStatement]
      [note (.rule .condition), condition, terminal .thenWord, terminal .leftBrace, commands,
        terminal .rightBrace, commands]
  | .identifier =>
    .read []
      ([note (.rule (.assignment t.lexeme)), terminal .assign] ++ expression ++
        [terminal .semicolon, commands])
  | .rightBrace => .pass
  | _ => .refuse .command

/-- Whether a token is one of the given arithmetic signs. -/
def isSign (signs : List String) (t : Token) : Bool :=
  t.kind == .mathOperator && signs.contains t.lexeme

/-- How a symbol meets the next token. -/
def meet (t : Token) : Symbol → Reaction
  | note e => .log e
  | terminal k => if t.kind = k then .read [] [] else .refuse (.kind k)
  | varSection =>
    if t.kind = .var then
      .read [.rule .varSection] [terminal .leftBrace, declarations, terminal .rightBrace]
    else .pass
  | declarations =>
    if t.kind = .identifier then
      .read []
        [note (.rule (.declaration t.lexeme)), terminal .colon, typeName, terminal .semicolon,
          declarations]
    else .pass
  | typeName =>
    if t.kind = .intType ∨ t.kind = .floatType then .read [] [] else .refuse .typeName
  | commands => meetCommand t
  | printArgument =>
    if t.kind = .stringLiteral then .read [] []
    else (meetFactor t).andThen [productTail, sumTail]
  | factor => meetFactor t
  | productTail => if isSign ["*", "/"] t then .read [] [factor, productTail] else .pass
  | sumTail => if isSign ["+", "-"] t then .read [] [factor, productTail, sumTail] else .pass
  | condition =>
    if t.kind = .leftParen then .read [] groupTail
    else (meetAtom t).andThen [productTail, sumTail, relationTail, clauseTail]
  | operand =>
    if t.kind = .leftParen then .read [] groupTail
    else (meetAtom t).andThen [productTail, sumTail, relationTail]
  | relationTail => if t.kind = .relOperator then .read [] expression else .pass
  | clauseTail =>
    if t.kind = .and ∨ t.kind = .or then .read [] [operand, clauseTail] else .pass

/-- What a symbol asks for when the input has ended; `none` if it can be empty. -/
def demand? : Symbol → Option Expectation
  | terminal k => some (.kind k)
  | typeName => some .typeName
  | printArgument | factor | condition | operand => some .factor
  | note _ | varSection | declarations | commands | productTail | sumTail | relationTail
  | clauseTail => none

end Symbol

end SourceCheck.Grammar
