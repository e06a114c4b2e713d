import SourceCheck.Check
import SourceCheck.CommandLine.Filter
import SourceCheck.CommandLine.Options
import SourceCheck.Text.Escape

/-!
# Command line — a run

What the program prints and how it exits, as a function of the request, the log setting from
outside, and what the file turned out to be.  The log goes to the error output before the error
itself; the token listing and the verdict go to the standard output.
-/

namespace SourceCheck.CommandLine

structure Output where
  exit : UInt8
  stdout : String := ""
  stderr : String := ""

/-- What there is at a path. -/
inductive FileState where
  | missing
  | directory
  /-- Something on the way to it is no directory. -/
  | notDirectory
  /-- A name on the way to it, or all of it, is too long. -/
  | nameTooLong
  | denied
  | bytes (data : ByteArray)

inductive Outcome where
  | done (output : Output)
  /-- The inspector is to be opened, after this much of the log. -/
  | inspect (stderr : String) (source : String)

/-! ### Texts -/

def versionText : String := "minic 0.1.0\n"

def helpText : String :=
  "Check a minic source file for lexical and syntactic errors

Usage: minic [OPTIONS] <FILE>

Arguments:
  <FILE>  The source file to check

Options:
  -t, --tokens      Print the token stream before the verdict
  -i, --inspect     Open the interactive inspector
  -v, --verbose...  Increase log verbosity (-v info, -vv debug, -vvv trace)
  -h, --help        Print help
  -V, --version     Print version
"

/-- One line for each text. -/
def unlines (texts : List String) : String :=
  String.join (texts.map (· ++ "\n"))

/-! ### The log -/

/-- The detail that repeated asking gives. -/
def detailOfVerbosity : Nat → Detail
  | 0 => Level.warn.detail
  | 1 => Level.info.detail
  | 2 => Level.debug.detail
  | _ => Level.trace.detail

/-- A setting from outside wins over the arguments. -/
def logFilter (setting : Option String) (verbosity : Nat) : Filter :=
  (setting.bind Filter.ofSetting?).getD (.ofDetail (detailOfVerbosity verbosity))

/-- The level in five places and the text, which can do nothing to a terminal. -/
def logLine (e : Event) : String :=
  String.ofList
    (e.level.name.toList.leftpad 5 ' ' ++ [' '] ++ e.text.toList.flatMap Text.inertEscape)

def logLines (filter : Filter) (events : List Event) : List String :=
  (events.filter filter.shows).map logLine

/-! ### Runs -/

/-- The text of a file, or why it cannot be read. -/
def FileState.text? : FileState → Except String String
  | missing => .error "No such file or directory (os error 2)"
  | directory => .error "Is a directory (os error 21)"
  | notDirectory => .error "Not a directory (os error 20)"
  | nameTooLong => .error "File name too long (os error 36)"
  | denied => .error "Permission denied (os error 13)"
  | bytes data =>
    match String.fromUTF8? data with
    | some source => .ok source
    | none => .error "stream did not contain valid UTF-8"

/-- A token of the listing. -/
def tokenLine (t : Token) : String :=
  s!"{t.location.line}:{t.location.column} {t.kind.name} " ++ Text.escapeString t.lexeme

/-- The listing of the tokens before the first flaw. -/
def listing (source : String) : List String :=
  (TokenStream.ofString source).tokens.map tokenLine

/-- Check a text that has been read from a file. -/
def checkSource (o : Options) (filter : Filter) (source : String) : Output :=
  let opening := Event.checking o.file source.utf8ByteSize
  let scanning := if o.tokens then (TokenStream.ofString source).events else []
  let log := logLines filter (opening :: scanning ++ (report source).events)
  let tokens := if o.tokens then listing source else []
  match check source with
  | .ok () => ⟨0, unlines (tokens ++ ["success"]), unlines log⟩
  | .error d => ⟨1, unlines tokens, unlines (log ++ ["error: " ++ d.describe])⟩

def run (o : Options) (setting : Option String) (file : FileState) : Outcome :=
  let filter := logFilter setting o.verbosity
  match file.text? with
  | .error reason => .done ⟨2, "", unlines ["error: cannot read " ++ o.file ++ ": " ++ reason]⟩
  | .ok source =>
    if o.inspect then
      .inspect (unlines (logLines filter [.checking o.file source.utf8ByteSize])) source
    else .done (checkSource o filter source)

end SourceCheck.CommandLine
