import TiltMenu.Menu.Rehearsal
import TiltMenu.Proofs.Menu.Dispatch
import TiltMenu.Proofs.Store.Transaction

/-!
# Where a command line goes

A command line is for the store if its first word is a name of the store family, and for the
device if it is a name of the device family only (`Families.isForStore`, `Families.isForDevice`).
The sets may overlap and may hold the names of the built-in actions.

To say which parts of a menu a dispatch calls, the parts are watched: a watched part does what it
did before and keeps a record of the calls that are made of it (`Watched`). Watching cannot be
seen in what a menu does (`unwatch_dispatch`), so the records tell what any menu calls.

One dispatch calls at most one validator, once, and after an acceptance either the store is run or
the command is put into the queue and executed, once. Everything else is left alone
(`dispatch_routes`).
-/

set_option autoImplicit false

namespace TiltMenu

/-! ## Families of command lines -/

namespace Families

/-- The first word of the command line is a name of the store family. -/
def isForStore (families : Families) (commandLine : CommandLine) : Bool :=
  commandLine.head?.any families.store.contains

/-- The first word of the command line is a name of the device family and none of the store
family. -/
def isForDevice (families : Families) (commandLine : CommandLine) : Bool :=
  commandLine.head?.any fun name => !families.store.contains name && families.device.contains name

variable {families : Families} {name : String}

theorem isForStore_cons (arguments : List String) :
    families.isForStore (name :: arguments) = decide (families.classify name = .store) := by
  show families.store.contains name = _
  unfold classify
  grind

theorem isForDevice_cons (arguments : List String) :
    families.isForDevice (name :: arguments) = decide (families.classify name = .device) := by
  show (!families.store.contains name && families.device.contains name) = _
  unfold classify
  grind

/-- No command line is for both. -/
theorem isForDevice_of_isForStore {commandLine : CommandLine}
    (forStore : families.isForStore commandLine = true) :
    families.isForDevice commandLine = false := by
  cases commandLine with
  | nil => rfl
  | cons name arguments =>
    rw [isForStore_cons, decide_eq_true_iff] at forStore
    rw [isForDevice_cons, forStore]
    rfl

/-- A name of neither family asks to leave exactly if it is that of the exit action. -/
theorem classify_eq_exit_iff (notStore : families.classify name ≠ .store)
    (notDevice : families.classify name ≠ .device) :
    families.classify name = .exit ↔ name = Action.exit := by
  have other : Action.exit ≠ Action.help := by decide
  unfold classify at *
  grind

end Families

/-! ## Watched parts -/

/-- A part of a menu with a record of the calls that were made of it, oldest first. -/
structure Watched (α β : Type) where
  part : α
  calls : List β := []

/-- A call of a validator: what it inspects, and against which store. -/
structure Inspection where
  store : Store
  commandLine : CommandLine

namespace Watched

variable {α β σ ν κ : Type}

/-- The part after one more call. -/
def called (watched : Watched α β) (call : β) (part : α) : Watched α β :=
  ⟨part, watched.calls ++ [call]⟩

instance [Validator ν κ] : Validator (Watched ν Inspection) κ where
  inspect watched store commandLine :=
    let verdict := Validator.inspect watched.part store commandLine
    ⟨verdict.accepted, watched.called ⟨store, commandLine⟩ verdict.validator, verdict.events⟩

instance [Executor σ κ] : Executor (Watched σ (Executor.Call κ)) κ where
  enqueue watched commands :=
    let queued := Executor.enqueue watched.part commands
    (watched.called (.enqueue commands) queued.1, queued.2)
  execute watched := (Executor.execute watched.part).mapState (watched.called .execute)

end Watched

namespace Menu

variable {σ ν δ κ ρ : Type}

/-- The menu with its parts watched and nothing recorded. -/
def watch (menu : Menu σ ν δ) (κ : Type) :
    Menu (Watched σ (Executor.Call κ)) (Watched ν Inspection) (Watched δ Inspection) where
  name := menu.name
  store := menu.store
  executor := ⟨menu.executor, []⟩
  deviceValidator := ⟨menu.deviceValidator, []⟩
  storeValidator := ⟨menu.storeValidator, []⟩
  families := menu.families

/-- The menu without the records. -/
def unwatch (menu : Menu (Watched σ (Executor.Call κ)) (Watched ν Inspection)
    (Watched δ Inspection)) : Menu σ ν δ where
  name := menu.name
  store := menu.store
  executor := menu.executor.part
  deviceValidator := menu.deviceValidator.part
  storeValidator := menu.storeValidator.part
  families := menu.families

/-- Interpreting does not depend on records that neither the verdict nor the execution shows. -/
theorem unwatch_interpret
    {menu : Menu (Watched σ (Executor.Call κ)) (Watched ν Inspection) (Watched δ Inspection)}
    {operation : String} {τ θ υ : Type} {watched : Verdict τ υ} {verdict : Verdict θ υ}
    (accepted : watched.accepted = verdict.accepted) (events : watched.events = verdict.events)
    {executeWatched : υ → Outcome (Menu (Watched σ (Executor.Call κ)) (Watched ν Inspection)
      (Watched δ Inspection))}
    {execute : υ → Outcome (Menu σ ν δ)}
    (executes : ∀ command, (executeWatched command).mapState unwatch = execute command) :
    (menu.interpret operation watched executeWatched).mapState unwatch =
      menu.unwatch.interpret operation verdict execute := by
  unfold interpret
  rw [accepted, events]
  cases verdict.accepted with
  | none => rfl
  | some command =>
    simp only [← executes command]
    rfl

variable [Executor σ κ] [Validator ν κ] [Validator δ ρ]

/-- **Watching cannot be seen.** A watched menu does what the menu does without the records. -/
theorem unwatch_dispatch (menu : Menu (Watched σ (Executor.Call κ)) (Watched ν Inspection)
    (Watched δ Inspection)) (commandLine : CommandLine) :
    (menu.dispatch commandLine).mapState unwatch = menu.unwatch.dispatch commandLine := by
  cases commandLine with
  | nil => rfl
  | cons name arguments =>
    have same : menu.unwatch.families.classify name = menu.families.classify name := rfl
    show (menu.route name _).mapState unwatch = menu.unwatch.route name _
    unfold route
    rw [same]
    cases menu.families.classify name with
    | help => rfl
    | exit => rfl
    | unknown => rfl
    | store =>
      exact congrArg (Outcome.logFirst _) (unwatch_interpret rfl rfl fun _ => rfl)
    | device =>
      exact congrArg (Outcome.logFirst _) (unwatch_interpret rfl rfl fun _ => rfl)

/-! ## What a dispatch leaves -/

/-- A command line for the store is inspected, and run on the store if it is accepted. -/
theorem dispatch_of_forStore (menu : Menu σ ν δ) (commandLine : CommandLine)
    (forStore : menu.families.isForStore commandLine = true) :
    let verdict := menu.storeVerdict commandLine
    let outcome := menu.dispatch commandLine
    (verdict.accepted = none →
      outcome.succeeded = true ∧
      outcome.state = { menu with storeValidator := verdict.validator }) ∧
    ∀ request, verdict.accepted = some request →
      outcome.succeeded = (menu.store.run commandLine).succeeded ∧
      outcome.state =
        { menu with
          storeValidator := verdict.validator
          store := (menu.store.run commandLine).state } := by
  intro verdict outcome
  have way : Dispatches menu commandLine outcome := menu.dispatches commandLine
  clear_value outcome
  cases way with
  | empty => cases forStore
  | help family => simp [Families.isForStore_cons, family] at forStore
  | exit family => simp [Families.isForStore_cons, family] at forStore
  | unknown family => simp [Families.isForStore_cons, family] at forStore
  | deviceRejected family => simp [Families.isForStore_cons, family] at forStore
  | deviceRun family => simp [Families.isForStore_cons, family] at forStore
  | storeRejected _ inspected rejected =>
    subst inspected
    refine ⟨fun _ => ⟨rfl, rfl⟩, fun request accepted => ?_⟩
    rw [rejected] at accepted
    cases accepted
  | storeRun _ inspected accepted =>
    subst inspected
    refine ⟨fun rejected => ?_, fun _ _ => ⟨rfl, rfl⟩⟩
    rw [accepted] at rejected
    cases rejected

/-- A command line for the device is inspected, and what is accepted is queued and executed. -/
theorem dispatch_of_forDevice (menu : Menu σ ν δ) (commandLine : CommandLine)
    (forDevice : menu.families.isForDevice commandLine = true) :
    let verdict := menu.deviceVerdict commandLine
    let outcome := menu.dispatch commandLine
    (verdict.accepted = none →
      outcome.succeeded = true ∧
      outcome.state = { menu with deviceValidator := verdict.validator }) ∧
    ∀ command, verdict.accepted = some command →
      let execution := Executor.execute (Executor.enqueue menu.executor [command]).1
      outcome.succeeded = execution.succeeded ∧
      outcome.state =
        { menu with deviceValidator := verdict.validator, executor := execution.state } := by
  intro verdict outcome
  have way : Dispatches menu commandLine outcome := menu.dispatches commandLine
  clear_value outcome
  cases way with
  | empty => cases forDevice
  | help family => simp [Families.isForDevice_cons, family] at forDevice
  | exit family => simp [Families.isForDevice_cons, family] at forDevice
  | unknown family => simp [Families.isForDevice_cons, family] at forDevice
  | storeRejected family => simp [Families.isForDevice_cons, family] at forDevice
  | storeRun family => simp [Families.isForDevice_cons, family] at forDevice
  | deviceRejected _ inspected rejected =>
    subst inspected
    refine ⟨fun _ => ⟨rfl, rfl⟩, fun command accepted => ?_⟩
    rw [rejected] at accepted
    cases accepted
  | deviceRun _ inspected accepted enqueued executed =>
    subst inspected enqueued executed
    refine ⟨fun rejected => ?_, fun command same => ?_⟩
    · rw [accepted] at rejected
      cases rejected
    · rw [accepted] at same
      cases same
      exact ⟨rfl, rfl⟩

/-- Any other command line changes nothing. It fails if it has no words or asks to leave. -/
theorem dispatch_of_neither (menu : Menu σ ν δ) (commandLine : CommandLine)
    (notStore : menu.families.isForStore commandLine = false)
    (notDevice : menu.families.isForDevice commandLine = false) :
    (menu.dispatch commandLine).state = menu ∧
      ((menu.dispatch commandLine).succeeded = false ↔
        commandLine = [] ∨ commandLine.head? = some Action.exit) := by
  have leaves (name : String) (arguments : List String)
      (family : menu.families.classify name ≠ .store ∧ menu.families.classify name ≠ .device) :
      menu.families.classify name = .exit ↔
        name :: arguments = [] ∨ (name :: arguments).head? = some Action.exit := by
    rw [Families.classify_eq_exit_iff family.1 family.2, List.head?_cons, Option.some.injEq]
    exact (or_iff_right (List.cons_ne_nil _ _)).symm
  have way := menu.dispatches commandLine
  generalize menu.dispatch commandLine = outcome at way
  cases way with
  | empty => exact ⟨rfl, iff_of_true rfl (.inl rfl)⟩
  | help family =>
    rw [← leaves _ _ (by simp [family]), family]
    exact ⟨rfl, iff_of_false Bool.noConfusion Family.noConfusion⟩
  | exit family =>
    rw [← leaves _ _ (by simp [family]), family]
    exact ⟨rfl, iff_of_true rfl rfl⟩
  | unknown family =>
    rw [← leaves _ _ (by simp [family]), family]
    exact ⟨rfl, iff_of_false Bool.noConfusion Family.noConfusion⟩
  | storeRejected family => simp [Families.isForStore_cons, family] at notStore
  | storeRun family => simp [Families.isForStore_cons, family] at notStore
  | deviceRejected family => simp [Families.isForDevice_cons, family] at notDevice
  | deviceRun family => simp [Families.isForDevice_cons, family] at notDevice

/-- **The store changes by a run that succeeds.** -/
theorem forStore_of_store_dispatch_ne (menu : Menu σ ν δ) (commandLine : CommandLine)
    (changed : (menu.dispatch commandLine).state.store ≠ menu.store) :
    menu.families.isForStore commandLine = true ∧
      (menu.storeVerdict commandLine).accepted.isSome = true ∧
      (menu.store.run commandLine).succeeded = true ∧
      (menu.dispatch commandLine).succeeded = true := by
  have way := menu.dispatches commandLine
  generalize menu.dispatch commandLine = outcome at way changed ⊢
  cases way with
  | empty => exact absurd rfl changed
  | help => exact absurd rfl changed
  | exit => exact absurd rfl changed
  | unknown => exact absurd rfl changed
  | storeRejected => exact absurd rfl changed
  | deviceRejected => exact absurd rfl changed
  | deviceRun => exact absurd rfl changed
  | @storeRun name arguments verdict request family inspected accepted =>
    cases ran : (menu.store.run (name :: arguments)).succeeded with
    | false => exact absurd (Store.state_run_of_failed ran) changed
    | true =>
      subst inspected
      refine ⟨?_, by rw [accepted]; rfl, rfl, rfl⟩
      rw [Families.isForStore_cons, family]
      rfl

/-! ## What a dispatch calls -/

/-- The calls that one dispatch makes of the parts of a watched menu. -/
theorem calls_dispatch (menu : Menu σ ν δ) (commandLine : CommandLine) :
    let called := ((menu.watch κ).dispatch commandLine).state
    called.storeValidator.calls =
        (if menu.families.isForStore commandLine then [⟨menu.store, commandLine⟩] else []) ∧
      called.deviceValidator.calls =
        (if menu.families.isForDevice commandLine then [⟨menu.store, commandLine⟩] else []) ∧
      called.executor.calls =
        if menu.families.isForDevice commandLine then
          match (menu.deviceVerdict commandLine).accepted with
          | some command => [.enqueue [command], .execute]
          | none => []
        else [] := by
  intro called
  cases forStore : menu.families.isForStore commandLine with
  | true =>
    obtain ⟨rejected, accepted⟩ := (menu.watch κ).dispatch_of_forStore commandLine forStore
    rw [Families.isForDevice_of_isForStore forStore]
    cases verdict : (menu.storeVerdict commandLine).accepted with
    | none =>
      have left : called = _ := (rejected verdict).2
      rw [left]
      exact ⟨rfl, rfl, rfl⟩
    | some request =>
      have left : called = _ := (accepted request verdict).2
      rw [left]
      exact ⟨rfl, rfl, rfl⟩
  | false =>
    cases forDevice : menu.families.isForDevice commandLine with
    | true =>
      obtain ⟨rejected, accepted⟩ := (menu.watch κ).dispatch_of_forDevice commandLine forDevice
      cases verdict : (menu.deviceVerdict commandLine).accepted with
      | none =>
        have left : called = _ := (rejected verdict).2
        rw [left]
        exact ⟨rfl, rfl, rfl⟩
      | some command =>
        have left : called = _ := (accepted command verdict).2
        rw [left]
        exact ⟨rfl, rfl, rfl⟩
    | false =>
      obtain ⟨left, _⟩ := (menu.watch κ).dispatch_of_neither commandLine forStore forDevice
      have same : called = menu.watch κ := left
      rw [same]
      exact ⟨rfl, rfl, rfl⟩

/-- What one dispatch calls, what comes of it and what it leaves alone. -/
structure RoutedOnce (menu : Menu σ ν δ) (commandLine : CommandLine) : Prop where
  /-- The records below are those of a menu that does the same. -/
  watched : ((menu.watch κ).dispatch commandLine).mapState unwatch = menu.dispatch commandLine
  /-- The store validator inspects a command line for the store, once, and no other. -/
  storeInspections : ((menu.watch κ).dispatch commandLine).state.storeValidator.calls =
    if menu.families.isForStore commandLine then [⟨menu.store, commandLine⟩] else []
  /-- The device validator inspects a command line for the device, once, and no other. -/
  deviceInspections : ((menu.watch κ).dispatch commandLine).state.deviceValidator.calls =
    if menu.families.isForDevice commandLine then [⟨menu.store, commandLine⟩] else []
  /-- The executor is given the one command that was accepted for the device, and executes once. -/
  executorCalls : ((menu.watch κ).dispatch commandLine).state.executor.calls =
    if menu.families.isForDevice commandLine then
      match (menu.deviceVerdict commandLine).accepted with
      | some command => [.enqueue [command], .execute]
      | none => []
    else []
  /-- The store changes only by a command line for it that was accepted and ran successfully. -/
  storeChange : (menu.dispatch commandLine).state.store ≠ menu.store →
    menu.families.isForStore commandLine = true ∧
      (menu.storeVerdict commandLine).accepted.isSome = true ∧
      (menu.store.run commandLine).succeeded = true ∧
      (menu.dispatch commandLine).succeeded = true
  /-- What the store validator turns down succeeds and changes the validator at most. -/
  storeRejected : menu.families.isForStore commandLine = true →
    (menu.storeVerdict commandLine).accepted = none →
    (menu.dispatch commandLine).succeeded = true ∧
      (menu.dispatch commandLine).state =
        { menu with storeValidator := (menu.storeVerdict commandLine).validator }
  /-- What the store validator accepts succeeds as its run on the store does. -/
  storeAccepted : menu.families.isForStore commandLine = true →
    ∀ request, (menu.storeVerdict commandLine).accepted = some request →
    (menu.dispatch commandLine).succeeded = (menu.store.run commandLine).succeeded ∧
      (menu.dispatch commandLine).state =
        { menu with
          storeValidator := (menu.storeVerdict commandLine).validator
          store := (menu.store.run commandLine).state }
  /-- What the device validator turns down succeeds and changes the validator at most. -/
  deviceRejected : menu.families.isForDevice commandLine = true →
    (menu.deviceVerdict commandLine).accepted = none →
    (menu.dispatch commandLine).succeeded = true ∧
      (menu.dispatch commandLine).state =
        { menu with deviceValidator := (menu.deviceVerdict commandLine).validator }
  /-- What the device validator accepts succeeds as its execution does. -/
  deviceAccepted : menu.families.isForDevice commandLine = true →
    ∀ command, (menu.deviceVerdict commandLine).accepted = some command →
    let execution := Executor.execute (Executor.enqueue menu.executor [command]).1
    (menu.dispatch commandLine).succeeded = execution.succeeded ∧
      (menu.dispatch commandLine).state =
        { menu with
          deviceValidator := (menu.deviceVerdict commandLine).validator
          executor := execution.state }
  /-- Any other command line changes nothing; it fails if it is empty or asks to leave. -/
  neither : menu.families.isForStore commandLine = false →
    menu.families.isForDevice commandLine = false →
    (menu.dispatch commandLine).state = menu ∧
      ((menu.dispatch commandLine).succeeded = false ↔
        commandLine = [] ∨ commandLine.head? = some Action.exit)
  /-- The names of the families stay. -/
  families : (menu.dispatch commandLine).state.families = menu.families

/-- **A dispatch goes one way and leaves the others alone.** The executor, the validators, the
store and the names of the families are arbitrary; the names may overlap and hide the built-in
actions. -/
theorem dispatch_routes (menu : Menu σ ν δ) (commandLine : CommandLine) :
    menu.RoutedOnce commandLine := by
  obtain ⟨storeInspections, deviceInspections, executorCalls⟩ := menu.calls_dispatch commandLine
  exact
    { watched := (menu.watch κ).unwatch_dispatch commandLine
      storeInspections := storeInspections
      deviceInspections := deviceInspections
      executorCalls := executorCalls
      storeChange := menu.forStore_of_store_dispatch_ne commandLine
      storeRejected := fun forStore => (menu.dispatch_of_forStore commandLine forStore).1
      storeAccepted := fun forStore => (menu.dispatch_of_forStore commandLine forStore).2
      deviceRejected := fun forDevice => (menu.dispatch_of_forDevice commandLine forDevice).1
      deviceAccepted := fun forDevice => (menu.dispatch_of_forDevice commandLine forDevice).2
      neither := menu.dispatch_of_neither commandLine
      families := menu.families_dispatch commandLine }

/-- A name of both families goes to the store validator, which turns it down; a name of the device
family goes to the executor, which fails. -/
theorem dispatch_routes_in_rehearsal :
    let menu := Rehearsal.menu "menu" .defaults [false] false true
    ((menu.watch String).dispatch ["shared"]).state.storeValidator.calls =
        [⟨menu.store, ["shared"]⟩] ∧
      ((menu.watch String).dispatch ["shared"]).state.executor.calls = [] ∧
      (menu.dispatch ["shared"]).succeeded = true ∧
      ((menu.watch String).dispatch ["SetTilt", "5"]).state.executor.calls =
        [.enqueue ["SetTilt 5"], .execute] ∧
      (menu.dispatch ["SetTilt", "5"]).succeeded = false := by
  intro menu
  have shared := menu.dispatch_routes ["shared"]
  have move := menu.dispatch_routes ["SetTilt", "5"]
  have accepted : (menu.deviceVerdict ["SetTilt", "5"]).accepted = some "SetTilt 5" := by decide
  refine ⟨shared.storeInspections, shared.executorCalls, (shared.storeRejected rfl rfl).1, ?_,
    (move.deviceAccepted rfl _ accepted).1⟩
  rw [move.executorCalls, accepted]
  rfl

end Menu

end TiltMenu
