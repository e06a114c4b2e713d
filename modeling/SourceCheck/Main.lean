import SourceCheck.CommandLine.Run
import SourceCheck.Inspector.Session

/-!
# The program

Reads the arguments and the file, prints what the run says, and exits with its code.  The
inspector is driven by lines from the standard input, one key a line.
-/

open SourceCheck SourceCheck.CommandLine

/-- What the file system has at a path. -/
def fileState (path : String) : IO FileState := do
  try
    return .bytes (← IO.FS.readBinFile path)
  catch
    | .inappropriateType _ 21 _ => return .directory
    | .inappropriateType .. => return .notDirectory
    | .invalidArgument .. => return .nameTooLong
    | .permissionDenied .. => return .denied
    | _ => return .missing

def printPicture (picture : Screen.Picture) : IO Unit :=
  for row in picture do
    IO.println (String.ofList (row.flatMap Screen.Cell.symbol))

/-- Draw, take a key, and go on until the inspector quits or the input ends. -/
partial def interact (s : Session) : IO Unit := do
  let s := s.draw
  printPicture s.picture
  let name := (← (← IO.getStdin).getLine)
  unless name.isEmpty do
    let s := s.step (.press (.ofName name.trimAscii.toString))
    unless s.inspector.quit do
      interact s

def main (args : List String) : IO UInt32 := do
  match Request.ofArguments args with
  | .error e =>
    IO.eprintln ("error: " ++ e.message)
    return 2
  | .ok .help =>
    IO.print helpText
    return 0
  | .ok .version =>
    IO.print versionText
    return 0
  | .ok (.run options) =>
    match run options (← IO.getEnv "RUST_LOG") (← fileState options.file) with
    | .done output =>
      IO.print output.stdout
      IO.eprint output.stderr
      return output.exit.toUInt32
    | .inspect log source =>
      IO.eprint log
      interact (.ofString source (.limited 80 24))
      return 0
