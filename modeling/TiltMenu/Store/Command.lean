import TiltMenu.Outcome
import TiltMenu.Store.Request

/-!
# Running commands of the store family

A command works on a copy of the store that takes the place of the store only if
the command succeeds and the copy is consistent, so a command that fails changes
nothing. Resetting puts the store back as it was delivered.
-/

set_option autoImplicit false

namespace TiltMenu.Store

open Log (Event)

/-- The origin of the events of the store family. -/
def origin : String := "almag_core::database::command"

/-- The operation that the events about a command name. -/
def operation : String := "run_database_command"

/-- The event that shows one parameter. -/
def shown (key : String) (parameter : Parameter) : Event where
  level := .info
  origin := origin
  message := some (key ++ " = " ++ parameter.value.display)
  details := [("key", .text key), ("value", .text parameter.value.display)]

/-- The event that shows one parameter with its access. -/
def listed (key : String) (parameter : Parameter) : Event where
  level := .info
  origin := origin
  message := some (key ++ " = " ++ parameter.value.display)
  details :=
    [("key", .text key), ("value", .text parameter.value.display),
      ("access", .text parameter.access.name)]

/-- Grants a request: the store after it and what it shows. -/
def grant (store : Store) : Request → Except Fault (Store × List Event)
  | .get key => (store.get key).map fun parameter => (store, [shown key parameter])
  | .set key value =>
    match store.set key value with
    | .error fault => .error fault
    | .ok staged =>
      match staged.inconsistency? with
      | some fault => .error fault
      | none => .ok (staged, [])
  | .list => .ok (store, store.entries.map fun entry => listed entry.1 entry.2)
  | .reset => .ok (defaults, [])

/-- Reads a command line as a request and grants it. -/
def execute (store : Store) (commandLine : CommandLine) : Except Fault (Store × List Event) :=
  match Request.parse store commandLine with
  | .error fault => .error fault
  | .ok request => store.grant request

/-- Runs a command line of the store family. -/
def run (store : Store) (commandLine : CommandLine) : Outcome Store :=
  let command := commandLine.headD ""
  let started := { Event.started origin operation with command := some command }
  match store.execute commandLine with
  | .ok (changed, shown) =>
    let finished := { Event.finished origin operation .elapsed with command := some command }
    ⟨true, changed, started :: shown ++ [finished]⟩
  | .error fault =>
    let failed :=
      { Event.failed origin operation .elapsed fault.report with command := some command }
    ⟨false, store, [started, failed]⟩

end TiltMenu.Store
