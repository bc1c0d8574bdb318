import TiltMenu.Device.Executor
import TiltMenu.Menu.Family
import TiltMenu.Store.Command
import TiltMenu.Validation

/-!
# The menu

A menu owns the parameter store, the executor of the device family, the
validators of both families and the names that belong to them. It dispatches one
command line at a time: to the store, to the executor, or to a built-in action.

| command line              | succeeds                            |
|---------------------------|-------------------------------------|
| without words             | no                                  |
| accepted by its validator | as its execution does               |
| turned down               | yes                                 |
| `help`                    | yes                                 |
| `exit`                    | no                                  |
| of an unknown name        | yes                                 |
-/

set_option autoImplicit false

namespace TiltMenu

open Log (Event)

/-- A menu over an executor of type `σ`, with validators of types `ν` for the
device family and `δ` for the store family. -/
structure Menu (σ ν δ : Type) where
  name : String
  store : Store
  executor : σ
  deviceValidator : ν
  storeValidator : δ
  families : Families := {}

namespace Menu

variable {σ ν δ κ ρ : Type}

/-- The origin of the events of the menu. -/
def origin : String := "almag_engine::menu"

/-! ## Events -/

/-- An event about choosing what to do with a command line. -/
def dispatched (menu : Menu σ ν δ) (level : Log.Level) (message : String) : Event where
  level := level
  origin := origin
  operation := some "dispatch"
  menu := some menu.name
  message := some message

/-- The events about a command line without words. -/
def emptyEvents (menu : Menu σ ν δ) : List Event :=
  [{ menu.dispatched .error "Empty user input" with stage := some Log.Stage.emptyInput },
    menu.dispatched .debug Families.usage]

/-- The event about a command line that goes to one of the two families. -/
def routedEvent (menu : Menu σ ν δ) (family : Family) (name : String) : Event :=
  { menu.dispatched .info name with
    command := some name
    details := [("family", .text family.name)] }

/-- The event about the help action. -/
def helpEvent (menu : Menu σ ν δ) : Event :=
  { menu.dispatched .info menu.families.helpText with stage := some Log.Stage.help }

/-- The event about the exit action. -/
def exitEvent (menu : Menu σ ν δ) : Event :=
  { menu.dispatched .info "Exit requested" with stage := some Log.Stage.exit }

/-- The event about a name that belongs to no family. -/
def unknownEvent (menu : Menu σ ν δ) (name : String) : Event :=
  { menu.dispatched .info (name ++ Action.helpWhenUnknown) with
    stage := some Log.Stage.unknown
    command := some name }

/-- The operation that the events about interpreting a command line of the store name. -/
def storeInterpretation : String := "interpret_database_command"

/-- The operation that the events about interpreting a command line of the device name. -/
def deviceInterpretation : String := "interpret_controller_command"

/-- An event about the progress of interpreting a command line. -/
def progress (operation stage : String) : Event where
  level := .debug
  origin := origin
  operation := some operation
  stage := some stage

/-- The event about a command line that its validator turned down. -/
def rejectedEvent (menu : Menu σ ν δ) (operation : String) : Event where
  level := .warn
  origin := origin
  operation := some operation
  stage := some Log.Stage.rejected
  menu := some menu.name
  message := some "Validation rejected the command"

/-! ## Dispatch -/

/-- The outcome of interpreting a command line: the validator has given its
verdict, `execute` runs what it accepted. -/
def interpret (menu : Menu σ ν δ) (operation : String) {τ υ : Type} (verdict : Verdict τ υ)
    (execute : υ → Outcome (Menu σ ν δ)) : Outcome (Menu σ ν δ) :=
  match verdict.accepted with
  | some command =>
    (execute command).logFirst
      (progress operation Log.Stage.start :: verdict.events
        ++ [progress operation Log.Stage.accepted])
  | none =>
    ⟨true, menu,
      progress operation Log.Stage.start :: verdict.events ++ [menu.rejectedEvent operation]⟩

/-- Interprets a command line of the store family. What the validator accepted is
run on the store from the command line itself. -/
def interpretStore [Validator δ ρ] (menu : Menu σ ν δ) (commandLine : CommandLine) :
    Outcome (Menu σ ν δ) :=
  let verdict := Validator.inspect menu.storeValidator menu.store commandLine
  let inspected := { menu with storeValidator := verdict.validator }
  inspected.interpret storeInterpretation verdict fun _ =>
    (menu.store.run commandLine).mapState fun store => { inspected with store := store }

/-- Interprets a command line of the device family. What the validator accepted is
queued and executed at once. -/
def interpretDevice [Executor σ κ] [Validator ν κ] (menu : Menu σ ν δ)
    (commandLine : CommandLine) : Outcome (Menu σ ν δ) :=
  let verdict := Validator.inspect menu.deviceValidator menu.store commandLine
  let inspected := { menu with deviceValidator := verdict.validator }
  inspected.interpret deviceInterpretation verdict fun command =>
    let queued := Executor.enqueue menu.executor [command]
    ((Executor.execute queued.1).mapState fun executor =>
      { inspected with executor := executor }).logFirst queued.2

/-- Dispatches a command line with words. -/
def route [Executor σ κ] [Validator ν κ] [Validator δ ρ] (menu : Menu σ ν δ) (name : String)
    (commandLine : CommandLine) : Outcome (Menu σ ν δ) :=
  match menu.families.classify name with
  | .store => (menu.interpretStore commandLine).logFirst [menu.routedEvent .store name]
  | .device => (menu.interpretDevice commandLine).logFirst [menu.routedEvent .device name]
  | .help => ⟨true, menu, [menu.helpEvent]⟩
  | .exit => ⟨false, menu, [menu.exitEvent]⟩
  | .unknown => ⟨true, menu, [menu.unknownEvent name]⟩

/-- Dispatches one command line. -/
def dispatch [Executor σ κ] [Validator ν κ] [Validator δ ρ] (menu : Menu σ ν δ)
    (commandLine : CommandLine) : Outcome (Menu σ ν δ) :=
  match commandLine with
  | [] => ⟨false, menu, menu.emptyEvents⟩
  | name :: _ => menu.route name commandLine

/-! ## Names of the families -/

/-- The menu with the names of a list in the store family, and the names that the
family had before. -/
def replaceStoreNames (menu : Menu σ ν δ) (names : List String) : NameSet × Menu σ ν δ :=
  (menu.families.store, { menu with families := { menu.families with store := .ofList names } })

/-- The menu with the names of a list in the device family, and the names that the
family had before. -/
def replaceDeviceNames (menu : Menu σ ν δ) (names : List String) : NameSet × Menu σ ν δ :=
  (menu.families.device, { menu with families := { menu.families with device := .ofList names } })

end Menu

end TiltMenu
