import TiltMenu.Input.Source
import TiltMenu.Menu.Basic

/-!
# Sessions

A menu runs a list of command lines as a batch, which attempts every one of them,
or it takes them from a source in an interactive session, which ends at the first
that does not succeed and at the end of the source.
-/

set_option autoImplicit false

namespace TiltMenu.Menu

open Log (Event)
open Input (Source Reading)

variable {σ ν δ κ ρ ς : Type} [Executor σ κ] [Validator ν κ] [Validator δ ρ]

/-! ## Batches -/

/-- Dispatches every command line of a list. -/
def dispatchAll (menu : Menu σ ν δ) (commandLines : List CommandLine) :
    Outcome (Menu σ ν δ) :=
  Outcome.runAll dispatch menu commandLines

/-- The operation that the events about a batch name. -/
def batchOperation : String := "run_predefined_commands"

/-- The event before a batch. -/
def batchStarted (menu : Menu σ ν δ) (count : Nat) : Event :=
  { Event.started origin batchOperation with
    menu := some menu.name
    details := [(Log.FieldName.units, .number count)] }

/-- The event after a batch. -/
def batchFinished (menu : Menu σ ν δ) (succeeded : Bool) : Event :=
  { Event.finished origin batchOperation .elapsed with
    menu := some menu.name
    details := [(Log.FieldName.duration, .elapsed), (Log.FieldName.succeeded, .flag succeeded)] }

/-- Runs a batch: every command line is attempted, and the batch succeeds if each
of them does. -/
def runBatch (menu : Menu σ ν δ) (commandLines : List CommandLine) : Outcome (Menu σ ν δ) :=
  let run := menu.dispatchAll commandLines
  { run with
    events := menu.batchStarted commandLines.length :: run.events
      ++ [menu.batchFinished run.succeeded] }

/-! ## Interactive sessions -/

/-- The event about a source that is exhausted. -/
def endOfInput : Event where
  level := .info
  origin := origin
  message := some "End of input"

/-- What an interactive session leaves behind. -/
structure SessionRun (σ ν δ ς : Type) where
  outcome : Outcome (Menu σ ν δ)
  source : ς

/-- Runs a session over a source, which ends at the first command line that does
not succeed. -/
def runSession [Source ς] (menu : Menu σ ν δ) (source : ς) : SessionRun σ ν δ ς :=
  match _handed : (Source.next source).commandLine with
  | none =>
    ⟨⟨true, menu, (Source.next source).events ++ [endOfInput]⟩, (Source.next source).source⟩
  | some commandLine =>
    let outcome := (menu.dispatch commandLine).logFirst (Source.next source).events
    if outcome.succeeded then
      let later := runSession outcome.state (Source.next source).source
      ⟨later.outcome.logFirst outcome.events, later.source⟩
    else ⟨outcome, (Source.next source).source⟩
termination_by Source.left source
decreasing_by exact Source.left_next_lt source (by rw [_handed]; rfl)

end TiltMenu.Menu
