import SourceCheck.Grammar.Recognizer

/-!
# Checking a text

The front end as a whole: a text is scanned into tokens, the tokens are recognised as a program,
and the first error on the way is the verdict.
-/

namespace SourceCheck

/-- The events of scanning a whole stream. -/
def TokenStream.events : TokenStream → List Event
  | token t rest => .token t :: rest.events
  | fault e => [.lexicalError e]
  | finish stop => [.inputEnd stop]

/-- The course and outcome of checking a text. -/
def report (source : String) : Grammar.Report :=
  Grammar.recognize Grammar.Symbol.program (.ofString source)

/-- Whether a text is one program of the language, or else its first error. -/
def check (source : String) : Verdict :=
  (report source).verdict

end SourceCheck
