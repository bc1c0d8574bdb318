import TiltMenu.Log.Line
import TiltMenu.Program.Run

/-!
# Performing an invocation

The program runs on a host, which gives it files and lines and takes what it shows. Nothing
else is asked of the host, so that the program is the same in `IO` and in a model of it, and
what is said of the one holds for the other as far as they agree on these few actions.

A batch is run as a whole before anything of it is shown. An interactive session goes line by
line: what a line leads to is shown before the next one is read.
-/

set_option autoImplicit false

namespace TiltMenu

open Input (File LineRead LineSource RawLine)
open Log (Event Profile)

/-! ## One line of a session -/

/-- What a menu does about an attempt to read a command line. -/
def Menu.answer {σ ν δ κ ρ : Type} [Executor σ κ] [Validator ν κ] [Validator δ ρ]
    (menu : Menu σ ν δ) : LineSource.Attempt → Outcome (Menu σ ν δ)
  | .command commandLine => menu.dispatch commandLine
  | .exhausted | .failed _ => ⟨true, menu, [endOfInput]⟩
  | .skipped | .undecodable _ | .unsplittable _ => .idle menu

namespace Program

/-! ## Hosts -/

/-- A monad in which the program runs. -/
class Host (m : Type → Type) where
  readFile (path : String) : m File
  /-- Takes the bytes of the next line of standard input. -/
  takeLine : m RawLine
  /-- Whether standard input is a terminal. -/
  isTerminal : m Bool
  /-- Shows a prompt, or does nothing if that is refused. -/
  showPrompt (prompt : String) : m Unit
  /-- Prints a text on standard output. -/
  print (text : String) : m Unit
  /-- Writes a line to standard error, where the log goes. -/
  report (line : String) : m Unit

variable {m : Type → Type} [Monad m] [Host m]

/-- Writes what a profile reports of some events to the log. -/
def showEvents (profile : Profile) (events : List Event) : m Unit :=
  forM (profile.lines events) Host.report

/-! ## Interactive sessions -/

/-- Tries to read a command line from the next line, behind a prompt if there is one. -/
def tryLine (profile : Profile) (prompt : Option String) : m LineSource.Attempt := do
  if let some prompt := prompt then Host.showPrompt prompt
  let attempt := LineSource.Attempt.ofLineRead (LineRead.ofRaw (← Host.takeLine))
  showEvents profile attempt.events
  return attempt

section Session

variable {σ ν δ κ ρ : Type} [Executor σ κ] [Validator ν κ] [Validator δ ρ]

/-- Reads one line and does what it says. Either the session goes on with a menu, or it is
over and the answer says whether every command line succeeded. -/
def takeTurn (profile : Profile) (prompt : Option String) (menu : Menu σ ν δ) :
    m (Menu σ ν δ ⊕ Bool) := do
  let attempt ← tryLine profile prompt
  let outcome := menu.answer attempt
  showEvents profile outcome.events
  return if outcome.succeeded && !attempt.endsInput then .inl outcome.state
    else .inr outcome.succeeded

/-- Leads a session turn by turn until it is over. -/
def converse (profile : Profile) (prompt : Option String) (menu : Menu σ ν δ) : m Bool :=
  repeatM (takeTurn profile prompt) menu

end Session

/-! ## Invocations -/

/-- What a run writes to standard error: what the profile reports of its events, and the fault
that prevented it. -/
def Invocation.diagnostics (invocation : Invocation) (ending : Ending) : List String :=
  (invocation.reported ending).map invocation.profile.line
    ++ ending.failure.toList.map fun fault => "Error: " ++ fault.message

/-- Shows how a run ended. The exit code is the answer. -/
def Invocation.conclude (invocation : Invocation) (ending : Ending) : m UInt8 := do
  forM (invocation.diagnostics ending) Host.report
  Host.print ending.output
  return ending.code

/-- Performs an invocation. The exit code is the answer. -/
def Invocation.perform (invocation : Invocation) : m UInt8 := do
  let configFile ← invocation.config.mapM Host.readFile
  match invocation.task with
  | .batch script dumpStore =>
    let scriptFile ← script.mapM Host.readFile
    invocation.conclude (runBatch configFile scriptFile dumpStore)
  | .interactive prompt =>
    match loadConfig configFile with
    | .error fault => invocation.conclude (.prevented fault [])
    | .ok config =>
      showEvents invocation.profile [configured config]
      let terminal ← Host.isTerminal
      let succeeded ← converse invocation.profile (if terminal then some prompt else none)
        (configuredMenu "interactive" config)
      showEvents invocation.profile [sessionFinished succeeded]
      return 0

end Program

end TiltMenu
