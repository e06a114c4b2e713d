/-!
# Command line — options

Arguments are read from left to right.  Short flags can stand together behind one dash, a double
dash ends the flags, and whatever is no flag is the file, of which there is exactly one.  Asking
for help or for the version ends the reading at once, as does the first argument that is wrong;
what concerns several arguments together is looked at last.
-/

namespace SourceCheck.CommandLine

/-- What a run is asked to do. -/
structure Options where
  file : String
  /-- List the tokens before the verdict. -/
  tokens : Bool
  /-- Open the inspector instead. -/
  inspect : Bool
  /-- How often more detail was asked for. -/
  verbosity : Nat

inductive Request where
  | help
  | version
  | run (options : Options)

inductive UsageError where
  | unknownFlag (flag : String)
  | repeatedFlag (flag : String)
  | unexpectedArgument (argument : String)
  | emptyFileName
  | conflictingFlags
  | missingFile

def UsageError.message : UsageError → String
  | unknownFlag flag => "unexpected argument '" ++ flag ++ "' found"
  | repeatedFlag flag => "the argument '" ++ flag ++ "' cannot be used multiple times"
  | unexpectedArgument argument => "unexpected argument '" ++ argument ++ "' found"
  | emptyFileName => "a value is required for '<FILE>' but none was supplied"
  | conflictingFlags => "the argument '--inspect' cannot be used with '--tokens'"
  | missingFile => "the following required arguments were not provided: <FILE>"

inductive Flag where
  | tokens | inspect | verbose | help | version

def Flag.ofShort? : Char → Option Flag
  | 't' => some tokens
  | 'i' => some inspect
  | 'v' => some verbose
  | 'h' => some help
  | 'V' => some version
  | _ => none

def Flag.ofLong? : String → Option Flag
  | "tokens" => some tokens
  | "inspect" => some inspect
  | "verbose" => some verbose
  | "help" => some help
  | "version" => some version
  | _ => none

/-- The part of the options known so far. -/
structure Draft where
  file : Option String := none
  tokens : Bool := false
  inspect : Bool := false
  verbosity : Nat := 0

/-- Where the reading of arguments stands: to be continued, or ended by an answer or an error. -/
inductive Progress where
  | more (d : Draft)
  | answer (r : Request)
  | failure (e : UsageError)

def Progress.andThen : Progress → (Draft → Progress) → Progress
  | more d, f => f d
  | ended, _ => ended

namespace Draft

def flag (d : Draft) : Flag → Progress
  | .tokens =>
    if d.tokens then .failure (.repeatedFlag "--tokens") else .more { d with tokens := true }
  | .inspect =>
    if d.inspect then .failure (.repeatedFlag "--inspect") else .more { d with inspect := true }
  | .verbose => .more { d with verbosity := d.verbosity + 1 }
  | .help => .answer .help
  | .version => .answer .version

/-- Flags by their letters. -/
def letters (d : Draft) : List Char → Progress
  | [] => .more d
  | c :: cs =>
    match Flag.ofShort? c with
    | some f => (d.flag f).andThen fun d => d.letters cs
    | none => .failure (.unknownFlag (String.ofList ['-', c]))

def value (d : Draft) (argument : String) : Progress :=
  match d.file with
  | some _ => .failure (.unexpectedArgument argument)
  | none =>
    if argument.isEmpty then .failure .emptyFileName
    else .more { d with file := some argument }

/-- One argument, before any double dash. -/
def argument (d : Draft) (a : String) : Progress :=
  match a.toList with
  | '-' :: '-' :: name =>
    match Flag.ofLong? (String.ofList name) with
    | some f => d.flag f
    | none => .failure (.unknownFlag a)
  | '-' :: c :: cs => d.letters (c :: cs)
  | _ => d.value a

/-- The arguments after a double dash, none of which is a flag. -/
def values (d : Draft) : List String → Progress
  | [] => .more d
  | a :: rest => (d.value a).andThen fun d => d.values rest

def arguments (d : Draft) : List String → Progress
  | [] => .more d
  | a :: rest =>
    if a = "--" then d.values rest
    else (d.argument a).andThen fun d => d.arguments rest

/-- The options, once all arguments are read. -/
def options (d : Draft) : Except UsageError Options :=
  if d.tokens ∧ d.inspect then .error .conflictingFlags
  else match d.file with
    | some file => .ok ⟨file, d.tokens, d.inspect, d.verbosity⟩
    | none => .error .missingFile

end Draft

/-- The request that the arguments make. -/
def Request.ofArguments (args : List String) : Except UsageError Request :=
  match Draft.arguments {} args with
  | .more d => d.options.map .run
  | .answer r => .ok r
  | .failure e => .error e

end SourceCheck.CommandLine
