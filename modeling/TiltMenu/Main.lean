import TiltMenu.Program.Host

/-!
# The command line program

The program runs in `IO`: files are read from the file system, lines from standard input,
and what is shown goes to standard output and standard error.
-/

set_option autoImplicit false

namespace TiltMenu.Program

open Input (File Obstacle RawLine)

/-- The obstacle that the system reports by a number, which may be negated, and in words. -/
def obstacleOfReport (report : UInt32) (words : String) : Obstacle :=
  let number := if report < 0x80000000 then report else 0 - report
  match number with
  | 2 => .missing
  | 13 => .forbidden
  | 20 => .notDirectory
  | 21 => .directory
  | 36 => .tooLong
  | 40 => .circular
  | number => .other (words ++ " (os error " ++ toString number ++ ")")

/-- The obstacle behind a failure to read a file. -/
def obstacleOf (failure : IO.Error) : Obstacle :=
  match failure with
  | .otherError report words | .resourceBusy report words | .resourceVanished report words
  | .unsupportedOperation report words | .hardwareFault report words
  | .unsatisfiedConstraints report words | .illegalOperation report words
  | .protocolError report words | .timeExpired report words | .alreadyExists _ report words
  | .interrupted _ report words | .noFileOrDirectory _ report words
  | .invalidArgument _ report words | .permissionDenied _ report words
  | .resourceExhausted _ report words | .inappropriateType _ report words
  | .noSuchThing _ report words => obstacleOfReport report words
  | .unexpectedEof | .userError _ => .other failure.toString

/-- The file of a path. -/
def readFile (path : String) : IO File := do
  try
    return .content (← IO.FS.readBinFile path).data.toList
  catch failure =>
    return .unreadable (obstacleOf failure)

/-- Takes one byte of a line on top of those collected. The line is over at its newline, at
the end of the input and where reading fails; what was collected is lost then. -/
def takeByte (input : IO.FS.Stream) (collected : List UInt8) : IO (List UInt8 ⊕ RawLine) := do
  try
    match (← input.read 1).data.toList with
    | [byte] =>
      let line := collected ++ [byte]
      return if byte = Input.newline then .inr (.bytes line) else .inl line
    | _ => return .inr (.bytes collected)
  catch
    | .interrupted _ _ _ => return .inl collected
    | failure => return .inr (.failed .other (obstacleOf failure).reason)

instance : Nonempty RawLine := ⟨.bytes []⟩

instance : Host IO where
  readFile := readFile
  takeLine := do repeatM (takeByte (← IO.getStdin)) []
  isTerminal := do (← IO.getStdin).isTty
  showPrompt prompt := do
    try
      let output ← IO.getStdout
      output.putStr prompt
      output.flush
    catch _ => return ()
  print text := IO.print text
  report line := IO.eprintln line

end TiltMenu.Program

/-- The program. -/
def main (arguments : List String) : IO UInt32 := do
  match TiltMenu.Program.Invocation.parse arguments with
  | .ok invocation => return (← invocation.perform).toUInt32
  | .error .help => do
    IO.print TiltMenu.Program.Invocation.helpText
    return 0
  | .error .usage => do
    IO.eprint TiltMenu.Program.Invocation.helpText
    return 2
