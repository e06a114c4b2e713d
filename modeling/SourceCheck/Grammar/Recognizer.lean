import SourceCheck.Grammar.Symbol
import SourceCheck.Scan.Stream

/-!
# Grammar — recognition

A program is recognised with one token of lookahead and without recovery: `feed` takes the next
token down the stack of symbols still to be read, `finish` deals with the stack at the end of the
input, and `recognize` does so along a token stream.  Each token is logged as it is pulled from
the stream, so the events show how far the recogniser looked.
-/

namespace SourceCheck.Grammar

/-- One token against the stack: the events on the way, and the stack that is left or what
should have stood in the token's place. -/
def feed (t : Token) : List Symbol → List Event × Except Expectation (List Symbol)
  | [] => ([], .error .endOfInput)
  | s :: stack =>
    match s.meet t with
    | .log e => (feed t stack).map (e :: ·) id
    | .pass => feed t stack
    | .read events next => (events, .ok (next ++ stack))
    | .refuse e => ([], .error e)

/-- The end of the input against the stack: every symbol left must be able to be empty. -/
def finish : List Symbol → List Event × Except Expectation Unit
  | [] => ([], .ok ())
  | .note e :: stack => (finish stack).map (e :: ·) id
  | s :: stack =>
    match s.demand? with
    | some e => ([], .error e)
    | none => finish stack

/-- Why a text is rejected. -/
inductive Rejection where
  | lexical (e : LexicalError)
  | mismatch (m : Mismatch)

def Rejection.diagnostic : Rejection → Diagnostic
  | lexical e => .lexical e
  | mismatch m => .syntactic m.toSyntaxError

/-- The course and the outcome of a recognition. -/
structure Report where
  events : List Event
  outcome : Except Rejection Unit

namespace Report

/-- A report that begins with more events. -/
def after (events : List Event) (r : Report) : Report :=
  ⟨events ++ r.events, r.outcome⟩

/-- The report of a mismatch, which is itself logged. -/
def ofMismatch (m : Mismatch) : Report :=
  ⟨[.syntaxError m.toSyntaxError], .error (.mismatch m)⟩

def verdict (r : Report) : Verdict :=
  match r.outcome with
  | .ok () => .ok ()
  | .error e => .error e.diagnostic

end Report

/-- Whether the tokens of a stream are what a stack of symbols stands for. -/
def recognize (stack : List Symbol) : TokenStream → Report
  | .token t rest =>
    match feed t stack with
    | (events, .ok stack') => (recognize stack' rest).after (.token t :: events)
    | (events, .error e) => (Report.ofMismatch ⟨e, some t⟩).after (.token t :: events)
  | .fault e => ⟨[.lexicalError e], .error (.lexical e)⟩
  | .finish stop =>
    match finish stack with
    | (events, .ok ()) => ⟨.inputEnd stop :: events ++ [.parseFinished stop], .ok ()⟩
    | (events, .error e) => (Report.ofMismatch ⟨e, none⟩).after (.inputEnd stop :: events)

end SourceCheck.Grammar
