import SourceCheck.Diagnostic

/-!
# Log

A check tells what it does as a list of events.  Every event has a level and comes from a part of
the program; a log shows the events of each part up to some level of detail.
-/

namespace SourceCheck

/-- Levels from the most urgent to the most detailed. -/
inductive Level where
  | error | warn | info | debug | trace
deriving DecidableEq

namespace Level

def name : Level → String
  | error => "ERROR"
  | warn => "WARN"
  | info => "INFO"
  | debug => "DEBUG"
  | trace => "TRACE"

def detail : Level → Nat
  | error => 1
  | warn => 2
  | info => 3
  | debug => 4
  | trace => 5

end Level

/-- The grammar rules that are worth an event. -/
inductive Rule where
  | program
  | varSection
  | declaration (name : String)
  | inputStatement
  | printStatement
  | assignment (name : String)
  | ifStatement
  | condition
deriving DecidableEq

def Rule.describe : Rule → String
  | program => "program"
  | varSection => "var section"
  | declaration name => "declaration of " ++ name
  | inputStatement => "input statement"
  | printStatement => "print statement"
  | assignment name => "assignment to " ++ name
  | ifStatement => "if statement"
  | condition => "condition"

inductive Event where
  | checking (path : String) (bytes : Nat)
  | token (t : Token)
  | inputEnd (p : Position)
  | lexicalError (e : LexicalError)
  | parseStarted
  | rule (r : Rule)
  | syntaxError (e : SyntaxError)
  | parseFinished (p : Position)
deriving DecidableEq

/-- The parts of the program that tell what they do. -/
inductive Part where
  | program | scanner | recognizer | statements | conditions
deriving DecidableEq

/-- The name of a part in a log setting. -/
def Part.name : Part → String
  | program => "minic"
  | scanner => "minic::parser::lexer"
  | recognizer => "minic::parser::parse"
  | statements => "minic::parser::statements"
  | conditions => "minic::parser::expressions"

namespace Event

/-- The part that an event comes from. -/
def part : Event → Part
  | checking .. => .program
  | token _ | inputEnd _ | lexicalError _ => .scanner
  | parseStarted | syntaxError _ | parseFinished _ => .recognizer
  | rule .condition => .conditions
  | rule _ => .statements

def level : Event → Level
  | checking .. => .info
  | token _ | inputEnd _ | rule _ => .trace
  | lexicalError _ | parseStarted | syntaxError _ | parseFinished _ => .debug

def text : Event → String
  | checking path bytes => s!"checking {path} ({bytes} bytes)"
  | token t => "token " ++ t.describe ++ " at " ++ t.location.describe
  | inputEnd p => "end of input at " ++ p.describe
  | lexicalError e => "lexical error at " ++ e.location.describe ++ ": " ++ e.message
  | parseStarted => "parse started"
  | rule r => r.describe
  | syntaxError e => e.describe
  | parseFinished p => "parse finished at " ++ p.describe

end Event

end SourceCheck
