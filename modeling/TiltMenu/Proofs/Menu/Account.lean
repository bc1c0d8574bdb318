import TiltMenu.Menu.Stock
import TiltMenu.Proofs.Device.Execution
import TiltMenu.Proofs.Menu.CutBatch
import TiltMenu.Proofs.Menu.Routing
import TiltMenu.Proofs.Store.Events

/-!
# What the log tells about a batch

Whoever has the log of the stock menu knows how each command line went (`accounts_dispatch`).
A command line that was run ends with the bracketed operation of the store or of the device
(`log_of_run`), and one that was turned down has two warnings and no such operation
(`log_of_rejection`). A dispatch fails exactly if one of its events is an error or the exit
action. The queue of the controller may hold commands from before, and may be discarded on the
way.

A batch gives each command line its turn, on the menu that the turns before it leave
(`turns`). Its log is that of the turns in order, between two events of its own
(`events_dispatchAll`).
-/

set_option autoImplicit false

namespace TiltMenu

open Log (Event)

/-! ## Turns -/

namespace Menu

variable {σ ν δ κ ρ : Type} [Executor σ κ] [Validator ν κ] [Validator δ ρ]

/-- What comes of each command line of a list when they are dispatched one after another. -/
def turns (menu : Menu σ ν δ) : List CommandLine → List (Outcome (Menu σ ν δ))
  | [] => []
  | first :: rest => menu.dispatch first :: turns (menu.dispatch first).state rest

/-- The turn at a place is taken on the menu that the command lines before it leave. -/
theorem getElem?_turns (menu : Menu σ ν δ) (commandLines : List CommandLine) (place : Nat) :
    (menu.turns commandLines)[place]? =
      commandLines[place]?.map fun commandLine =>
        (menu.dispatchAll (commandLines.take place)).state.dispatch commandLine := by
  induction commandLines generalizing menu place with
  | nil => rfl
  | cons first rest ih =>
    cases place with
    | zero => rfl
    | succ place => exact ih (menu.dispatch first).state place

/-- **The events of a list are those of its turns.** -/
theorem events_dispatchAll (menu : Menu σ ν δ) (commandLines : List CommandLine) :
    (menu.dispatchAll commandLines).events =
      (menu.turns commandLines).flatMap (·.events) := by
  induction commandLines generalizing menu with
  | nil => rfl
  | cons first rest ih =>
    rw [dispatchAll_cons, turns, List.flatMap_cons, ← ih]
    rfl

end Menu

namespace StockMenu

open Device (Controller)
open Menu (inspectionEvents progress storeInterpretation deviceInterpretation)

/-! ## The log of one command line -/

/-- The log tells that a command line was turned down: it has two warnings, first that of the
validator and then that of the menu, and nothing was run. -/
structure TellsRejection (events : List Event) : Prop where
  warnings : ∃ reason rejection, events.filter (·.level == .warn) = [reason, rejection] ∧
    reason.operation = some "validate" ∧ reason.stage = none ∧
    rejection.operation ≠ some "validate" ∧ rejection.stage = some Log.Stage.rejected
  idle : ∀ event ∈ events,
    event.operation ≠ some Store.operation ∧ event.operation ≠ some Controller.operation

/-- What the log of a command line tells about it. -/
structure Accounts (menu : StockMenu) (commandLine : CommandLine) (outcome : Outcome StockMenu) :
    Prop where
  /-- A failure can be seen, and nothing else looks like one. -/
  failed_iff : outcome.succeeded = false ↔ ∃ event ∈ outcome.events, event.TellsFailure
  /-- What is accepted for the store is run on it, as the log says last. -/
  storeRun : menu.families.isForStore commandLine = true →
    (menu.storeVerdict commandLine).accepted.isSome = true →
    Log.EndsWith Store.operation outcome.succeeded outcome.events
  storeRejected : menu.families.isForStore commandLine = true →
    (menu.storeVerdict commandLine).accepted = none → TellsRejection outcome.events
  /-- What is accepted for the device is executed, as the log says last. -/
  deviceRun : menu.families.isForDevice commandLine = true →
    (menu.deviceVerdict commandLine).accepted.isSome = true →
    Log.EndsWith Controller.operation outcome.succeeded outcome.events
  deviceRejected : menu.families.isForDevice commandLine = true →
    (menu.deviceVerdict commandLine).accepted = none → TellsRejection outcome.events

section Interpreting

variable (menu : StockMenu) (family : Family) (interpretation name : String)

/-- The events before a run belong to the menu and tell of no failure. -/
theorem of_mem_beforeRun :
    ∀ event ∈ menu.inspectionEvents family interpretation name []
      ++ [progress interpretation Log.Stage.accepted],
      (event.operation = some "dispatch" ∨ event.operation = some interpretation) ∧
        ¬ event.TellsFailure := by
  intro event member
  simp only [inspectionEvents, List.cons_append, List.nil_append, List.mem_cons,
    List.not_mem_nil, or_false] at member
  rcases member with rfl | rfl | rfl
  · exact ⟨.inl rfl, by simp [Event.TellsFailure, Menu.routedEvent, Menu.dispatched]⟩
  · exact ⟨.inr rfl, by simp [Event.TellsFailure, progress, Log.Stage.start, Log.Stage.exit]⟩
  · exact ⟨.inr rfl, by simp [Event.TellsFailure, progress, Log.Stage.accepted, Log.Stage.exit]⟩

/-- **A command line that is run logs a bracketed operation last**, and the log tells of a
failure exactly if the run fails. -/
theorem log_of_run {α : Type} {operation : String} {run : Outcome α} {verdict : List Event}
    (silent : verdict = []) (brackets : run.Brackets operation)
    (apart : operation ∉ ["dispatch", interpretation]) :
    let events := menu.inspectionEvents family interpretation name verdict
      ++ progress interpretation Log.Stage.accepted :: run.events
    (run.succeeded = false ↔ ∃ event ∈ events, event.TellsFailure) ∧
      Log.EndsWith operation run.succeeded events := by
  subst silent
  simp only [List.mem_cons, List.not_mem_nil, or_false, not_or] at apart
  intro events
  have cut : events = (menu.inspectionEvents family interpretation name []
      ++ [progress interpretation Log.Stage.accepted]) ++ run.events := by
    simp [events]
  have before := menu.of_mem_beforeRun family interpretation name
  have foreign : ∀ event ∈ menu.inspectionEvents family interpretation name []
      ++ [progress interpretation Log.Stage.accepted], event.operation ≠ some operation := by
    intro event member
    rcases (before event member).1 with chosen | interpreted
    · simpa [chosen] using Ne.symm apart.1
    · simpa [interpreted] using Ne.symm apart.2
  rw [cut]
  refine ⟨?_, brackets.endsWith foreign⟩
  rw [brackets.failed_iff]
  constructor
  · rintro ⟨event, member, tells⟩
    exact ⟨event, List.mem_append_right _ member, tells⟩
  · rintro ⟨event, member, tells⟩
    rcases List.mem_append.mp member with earlier | own
    · exact absurd tells (before event earlier).2
    · exact ⟨event, own, tells⟩

/-- **A command line that is turned down logs two warnings**, and the log tells of no
failure. -/
theorem log_of_rejection {commandLine : CommandLine} {verdict : List Event}
    (warned : ∃ fault, verdict = [rejected commandLine fault])
    (apart : interpretation ∉ ["validate", Store.operation, Controller.operation]) :
    let events := menu.inspectionEvents family interpretation name verdict
      ++ [menu.rejectedEvent interpretation]
    (¬ ∃ event ∈ events, event.TellsFailure) ∧ TellsRejection events := by
  obtain ⟨fault, rfl⟩ := warned
  simp only [List.mem_cons, List.not_mem_nil, or_false, not_or] at apart
  obtain ⟨notValidate, notStore, notDevice⟩ := apart
  intro events
  refine ⟨?_, ⟨rejected commandLine fault, menu.rejectedEvent interpretation, rfl, rfl, rfl, ?_,
    rfl⟩, ?_⟩
  · simp [events, inspectionEvents, Event.TellsFailure, Menu.routedEvent, Menu.dispatched, progress,
      rejected, Menu.rejectedEvent, Log.Stage.start, Log.Stage.rejected, Log.Stage.exit]
  · simpa [Menu.rejectedEvent] using notValidate
  · simpa [events, inspectionEvents, Menu.routedEvent, Menu.dispatched, progress, rejected,
      Menu.rejectedEvent, Store.operation, Controller.operation] using And.intro notStore notDevice

end Interpreting

namespace Accounts

variable {menu : StockMenu} {commandLine : CommandLine} {outcome : Outcome StockMenu}

theorem of_neither (notStore : menu.families.isForStore commandLine = false)
    (notDevice : menu.families.isForDevice commandLine = false)
    (failed_iff : outcome.succeeded = false ↔ ∃ event ∈ outcome.events, event.TellsFailure) :
    menu.Accounts commandLine outcome where
  failed_iff := failed_iff
  storeRun := fun forStore => by simp [notStore] at forStore
  storeRejected := fun forStore => by simp [notStore] at forStore
  deviceRun := fun forDevice => by simp [notDevice] at forDevice
  deviceRejected := fun forDevice => by simp [notDevice] at forDevice

theorem of_forStore (forStore : menu.families.isForStore commandLine = true)
    (failed_iff : outcome.succeeded = false ↔ ∃ event ∈ outcome.events, event.TellsFailure)
    (run : (menu.storeVerdict commandLine).accepted.isSome = true →
      Log.EndsWith Store.operation outcome.succeeded outcome.events)
    (turnedDown : (menu.storeVerdict commandLine).accepted = none →
      TellsRejection outcome.events) :
    menu.Accounts commandLine outcome where
  failed_iff := failed_iff
  storeRun := fun _ => run
  storeRejected := fun _ => turnedDown
  deviceRun := fun forDevice => by
    rw [Families.isForDevice_of_isForStore forStore] at forDevice
    cases forDevice
  deviceRejected := fun forDevice => by
    rw [Families.isForDevice_of_isForStore forStore] at forDevice
    cases forDevice

theorem of_forDevice (forDevice : menu.families.isForDevice commandLine = true)
    (failed_iff : outcome.succeeded = false ↔ ∃ event ∈ outcome.events, event.TellsFailure)
    (run : (menu.deviceVerdict commandLine).accepted.isSome = true →
      Log.EndsWith Controller.operation outcome.succeeded outcome.events)
    (turnedDown : (menu.deviceVerdict commandLine).accepted = none →
      TellsRejection outcome.events) :
    menu.Accounts commandLine outcome where
  failed_iff := failed_iff
  storeRun := fun forStore => by
    rw [Families.isForDevice_of_isForStore forStore] at forDevice
    cases forDevice
  storeRejected := fun forStore => by
    rw [Families.isForDevice_of_isForStore forStore] at forDevice
    cases forDevice
  deviceRun := fun _ => run
  deviceRejected := fun _ => turnedDown

end Accounts

/-- **The log of a command line tells how it went.** -/
theorem accounts_dispatch (menu : StockMenu) (commandLine : CommandLine) :
    menu.Accounts commandLine (menu.dispatch commandLine) := by
  have way := menu.dispatches commandLine
  generalize menu.dispatch commandLine = outcome at way ⊢
  cases way with
  | empty => exact .of_neither rfl rfl (iff_of_true rfl ⟨_, List.mem_cons_self, .inl rfl⟩)
  | help family =>
    refine .of_neither (by simp [Families.isForStore_cons, family])
      (by simp [Families.isForDevice_cons, family]) ?_
    simp [Event.TellsFailure, Menu.helpEvent, Menu.dispatched, Log.Stage.help, Log.Stage.exit]
  | exit family =>
    refine .of_neither (by simp [Families.isForStore_cons, family])
      (by simp [Families.isForDevice_cons, family]) ?_
    exact iff_of_true rfl ⟨_, List.mem_singleton_self _, .inr rfl⟩
  | unknown family =>
    refine .of_neither (by simp [Families.isForStore_cons, family])
      (by simp [Families.isForDevice_cons, family]) ?_
    simp [Event.TellsFailure, Menu.unknownEvent, Menu.dispatched, Log.Stage.unknown,
      Log.Stage.exit]
  | @storeRejected name arguments _ family inspected turnedDown =>
    subst inspected
    obtain ⟨quiet, rejection⟩ := menu.log_of_rejection .store storeInterpretation name
      (Verdict.events_of_rejected turnedDown) (by decide)
    refine .of_forStore (by simp [Families.isForStore_cons, family])
      (iff_of_false Bool.noConfusion quiet) ?_ fun _ => rejection
    rw [turnedDown]
    intro impossible
    cases impossible
  | @storeRun name arguments _ _ family inspected accepted =>
    subst inspected
    obtain ⟨failed_iff, ends⟩ := menu.log_of_run .store storeInterpretation name
      (Verdict.events_of_accepted accepted) (menu.store.brackets_run (name :: arguments))
      (by decide)
    refine .of_forStore (by simp [Families.isForStore_cons, family]) failed_iff (fun _ => ends) ?_
    rw [accepted]
    intro impossible
    cases impossible
  | @deviceRejected name arguments _ family inspected turnedDown =>
    subst inspected
    obtain ⟨quiet, rejection⟩ := menu.log_of_rejection .device deviceInterpretation name
      (Verdict.events_of_rejected turnedDown) (by decide)
    refine .of_forDevice (by simp [Families.isForDevice_cons, family])
      (iff_of_false Bool.noConfusion quiet) ?_ fun _ => rejection
    rw [turnedDown]
    intro impossible
    cases impossible
  | @deviceRun name arguments _ command _ _ family inspected accepted enqueued executed =>
    subst inspected enqueued executed
    obtain ⟨failed_iff, ends⟩ := menu.log_of_run .device deviceInterpretation name
      (Verdict.events_of_accepted accepted) (menu.executor.enqueue [command]).brackets_execute
      (by decide)
    refine .of_forDevice (by simp [Families.isForDevice_cons, family]) failed_iff
      (fun _ => ends) ?_
    rw [accepted]
    intro impossible
    cases impossible

/-! ## The log of a batch -/

/-- **The log of a batch tells how every command line of it went.** The names of the families,
the store and what waits in the queue of the controller are arbitrary. Each turn fails exactly if
its log has an error or the exit action; if it was run, the log ends with its bracketed operation,
and if it was turned down, there are two warnings and no operation. The batch logs its start with
the number of command lines, its turns in order, and its end with what it returns. -/
theorem batch_accounts (menu : StockMenu) :
    (∀ commandLine, menu.Accounts commandLine (menu.dispatch commandLine)) ∧
    ∀ commandLines,
      (∀ place, (menu.turns commandLines)[place]? =
        commandLines[place]?.map fun commandLine =>
          (menu.runBatch (commandLines.take place)).state.dispatch commandLine) ∧
      ∃ opening closing : Event,
        (menu.runBatch commandLines).events =
          opening :: (menu.turns commandLines).flatMap (·.events) ++ [closing] ∧
        opening.Opens Menu.batchOperation ∧
        opening.detail? Log.FieldName.units = some (.number commandLines.length) ∧
        closing.Closes Menu.batchOperation true ∧
        closing.detail? Log.FieldName.succeeded =
          some (.flag (menu.runBatch commandLines).succeeded) := by
  refine ⟨menu.accounts_dispatch, fun commandLines =>
    ⟨menu.getElem?_turns commandLines, menu.batchStarted commandLines.length,
      menu.batchFinished (menu.runBatch commandLines).succeeded, ?_, ?_⟩⟩
  · rw [← menu.events_dispatchAll]
    rfl
  · exact ⟨⟨rfl, rfl, rfl⟩, rfl, ⟨rfl, rfl, rfl⟩, rfl⟩

end StockMenu

end TiltMenu
