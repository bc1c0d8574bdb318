import TiltMenu.Menu.Basic

/-!
# What one dispatch does

`Dispatches` lists every way in which a menu dispatches a command line, with the condition
under which it is taken, the state it leaves and the events it logs. `dispatches` says that
the list is complete, so that a property of dispatching is proved way by way.

Two of the ways run something: a command line of the store family is run on the store, and
a command of the device family is put into the queue of the executor and executed. All
others leave the store and the executor alone.

An event of a dispatch comes from the menu itself or from one of the parts that it calls
(`loggedBy`).
-/

set_option autoImplicit false

namespace TiltMenu.Menu

variable {σ ν δ κ ρ : Type} [Executor σ κ] [Validator ν κ] [Validator δ ρ]

/-- The verdict of the store validator on a command line. -/
def storeVerdict (menu : Menu σ ν δ) (commandLine : CommandLine) : Verdict δ ρ :=
  Validator.inspect menu.storeValidator menu.store commandLine

/-- The verdict of the device validator on a command line. -/
def deviceVerdict (menu : Menu σ ν δ) (commandLine : CommandLine) : Verdict ν κ :=
  Validator.inspect menu.deviceValidator menu.store commandLine

/-- The events of a command line of a family up to the verdict. -/
def inspectionEvents (menu : Menu σ ν δ) (family : Family) (operation name : String)
    (verdict : List Log.Event) : List Log.Event :=
  menu.routedEvent family name :: progress operation Log.Stage.start :: verdict

/-- The ways of dispatching a command line. -/
inductive Dispatches (menu : Menu σ ν δ) : CommandLine → Outcome (Menu σ ν δ) → Prop where
  | empty : Dispatches menu [] ⟨false, menu, menu.emptyEvents⟩
  | help {name : String} {arguments : List String}
      (family : menu.families.classify name = .help) :
      Dispatches menu (name :: arguments) ⟨true, menu, [menu.helpEvent]⟩
  | exit {name : String} {arguments : List String}
      (family : menu.families.classify name = .exit) :
      Dispatches menu (name :: arguments) ⟨false, menu, [menu.exitEvent]⟩
  | unknown {name : String} {arguments : List String}
      (family : menu.families.classify name = .unknown) :
      Dispatches menu (name :: arguments) ⟨true, menu, [menu.unknownEvent name]⟩
  | storeRejected {name : String} {arguments : List String} {verdict : Verdict δ ρ}
      (family : menu.families.classify name = .store)
      (inspected : menu.storeVerdict (name :: arguments) = verdict)
      (rejected : verdict.accepted = none) :
      Dispatches menu (name :: arguments)
        ⟨true, { menu with storeValidator := verdict.validator },
          menu.inspectionEvents .store storeInterpretation name verdict.events
            ++ [menu.rejectedEvent storeInterpretation]⟩
  | storeRun {name : String} {arguments : List String} {verdict : Verdict δ ρ} {request : ρ}
      (family : menu.families.classify name = .store)
      (inspected : menu.storeVerdict (name :: arguments) = verdict)
      (accepted : verdict.accepted = some request) :
      Dispatches menu (name :: arguments)
        ⟨(menu.store.run (name :: arguments)).succeeded,
          { menu with
            storeValidator := verdict.validator
            store := (menu.store.run (name :: arguments)).state },
          menu.inspectionEvents .store storeInterpretation name verdict.events
            ++ progress storeInterpretation Log.Stage.accepted
              :: (menu.store.run (name :: arguments)).events⟩
  | deviceRejected {name : String} {arguments : List String} {verdict : Verdict ν κ}
      (family : menu.families.classify name = .device)
      (inspected : menu.deviceVerdict (name :: arguments) = verdict)
      (rejected : verdict.accepted = none) :
      Dispatches menu (name :: arguments)
        ⟨true, { menu with deviceValidator := verdict.validator },
          menu.inspectionEvents .device deviceInterpretation name verdict.events
            ++ [menu.rejectedEvent deviceInterpretation]⟩
  | deviceRun {name : String} {arguments : List String} {verdict : Verdict ν κ} {command : κ}
      {queued : σ × List Log.Event} {execution : Outcome σ}
      (family : menu.families.classify name = .device)
      (inspected : menu.deviceVerdict (name :: arguments) = verdict)
      (accepted : verdict.accepted = some command)
      (enqueued : Executor.enqueue menu.executor [command] = queued)
      (executed : Executor.execute queued.1 = execution) :
      Dispatches menu (name :: arguments)
        ⟨execution.succeeded,
          { menu with deviceValidator := verdict.validator, executor := execution.state },
          menu.inspectionEvents .device deviceInterpretation name verdict.events
            ++ progress deviceInterpretation Log.Stage.accepted
              :: (queued.2 ++ execution.events)⟩

/-- **Every dispatch goes one of these ways.** -/
theorem dispatches (menu : Menu σ ν δ) (commandLine : CommandLine) :
    Dispatches menu commandLine (menu.dispatch commandLine) := by
  cases commandLine with
  | nil => exact .empty
  | cons name arguments =>
    cases family : menu.families.classify name with
    | help =>
      simp only [dispatch, route, family]
      exact .help family
    | exit =>
      simp only [dispatch, route, family]
      exact .exit family
    | unknown =>
      simp only [dispatch, route, family]
      exact .unknown family
    | store =>
      cases accepted : (menu.storeVerdict (name :: arguments)).accepted with
      | none =>
        have way : Dispatches menu (name :: arguments) _ := .storeRejected family rfl accepted
        unfold storeVerdict at accepted way
        simpa [dispatch, route, family, interpretStore, interpret, accepted, Outcome.logFirst,
          inspectionEvents, rejectedEvent] using way
      | some request =>
        have way : Dispatches menu (name :: arguments) _ := .storeRun family rfl accepted
        unfold storeVerdict at accepted way
        simpa [dispatch, route, family, interpretStore, interpret, accepted, Outcome.logFirst,
          Outcome.mapState, inspectionEvents] using way
    | device =>
      cases accepted : (menu.deviceVerdict (name :: arguments)).accepted with
      | none =>
        have way : Dispatches menu (name :: arguments) _ := .deviceRejected family rfl accepted
        unfold deviceVerdict at accepted way
        simpa [dispatch, route, family, interpretDevice, interpret, accepted, Outcome.logFirst,
          inspectionEvents, rejectedEvent] using way
      | some command =>
        have way : Dispatches menu (name :: arguments) _ := .deviceRun family rfl accepted rfl rfl
        unfold deviceVerdict at accepted way
        simpa [dispatch, route, family, interpretDevice, interpret, accepted, Outcome.logFirst,
          Outcome.mapState, inspectionEvents] using way

/-- A dispatch leaves the names of the families alone. -/
theorem families_dispatch (menu : Menu σ ν δ) (commandLine : CommandLine) :
    (menu.dispatch commandLine).state.families = menu.families := by
  have way := menu.dispatches commandLine
  generalize menu.dispatch commandLine = outcome at way ⊢
  cases way <;> rfl

/-! ## Where an event comes from -/

/-- The event is one of the menu itself about a command line with words. -/
structure IsOwn (event : Log.Event) : Prop where
  operation : event.operation = some "dispatch" ∨ event.operation = some storeInterpretation ∨
    event.operation = some deviceInterpretation
  stage : event.stage ≠ some Log.Stage.emptyInput
  blameless : event.detail? Log.FieldName.errorCode = none

/-- Who logs an event when a command line is dispatched. -/
inductive LoggedBy (menu : Menu σ ν δ) (commandLine : CommandLine) (event : Log.Event) : Prop where
  /-- The menu, about a command line without words. -/
  | wordless (empty : commandLine = []) (told : event ∈ menu.emptyEvents)
  | menu (own : IsOwn event)
  | storeValidator (judged : event ∈ (menu.storeVerdict commandLine).events)
  | deviceValidator (judged : event ∈ (menu.deviceVerdict commandLine).events)
  | store (ran : event ∈ (menu.store.run commandLine).events)
  | queue {command : κ} (queued : event ∈ (Executor.enqueue menu.executor [command]).2)
  | execution {command : κ}
      (executed : event ∈ (Executor.execute (Executor.enqueue menu.executor [command]).1).events)

section Interpreting

variable {menu : Menu σ ν δ} {commandLine : CommandLine} {operation : String} {event : Log.Event}
  (interprets : operation = storeInterpretation ∨ operation = deviceInterpretation)

include interprets

theorem isOwn_progress {stage : String} (shown : stage ≠ Log.Stage.emptyInput) :
    IsOwn (progress operation stage) where
  operation := .inr (interprets.imp (congrArg some) (congrArg some))
  stage := by simpa [progress] using shown
  blameless := rfl

theorem isOwn_rejectedEvent : IsOwn (menu.rejectedEvent operation) where
  operation := .inr (interprets.imp (congrArg some) (congrArg some))
  stage := by simp [rejectedEvent, Log.Stage.rejected, Log.Stage.emptyInput]
  blameless := rfl

/-- The events about interpreting a command line are those of the menu, of the verdict and of
what follows it. -/
theorem loggedBy_of_mem_interpretation {family : Family} {name : String}
    {verdict rest : List Log.Event}
    (judged : ∀ event ∈ verdict, menu.LoggedBy commandLine event)
    (later : ∀ event ∈ rest, menu.LoggedBy commandLine event)
    (member : event ∈ menu.inspectionEvents family operation name verdict ++ rest) :
    menu.LoggedBy commandLine event := by
  rcases List.mem_append.mp member with before | after
  · simp only [inspectionEvents, List.mem_cons] at before
    rcases before with rfl | rfl | inspected
    · exact .menu ⟨.inl rfl, by simp [routedEvent, dispatched], rfl⟩
    · exact .menu (isOwn_progress interprets (by decide))
    · exact judged event inspected
  · exact later event after

end Interpreting

/-- **Every event of a dispatch comes from the menu or from a part that it calls.** -/
theorem loggedBy {menu : Menu σ ν δ} {commandLine : CommandLine} {event : Log.Event}
    (member : event ∈ (menu.dispatch commandLine).events) : menu.LoggedBy commandLine event := by
  have way := menu.dispatches commandLine
  generalize menu.dispatch commandLine = outcome at way member
  cases way with
  | empty => exact .wordless rfl member
  | help =>
    rw [List.mem_singleton.mp member]
    exact .menu ⟨.inl rfl, by simp [helpEvent, Log.Stage.help, Log.Stage.emptyInput], rfl⟩
  | exit =>
    rw [List.mem_singleton.mp member]
    exact .menu ⟨.inl rfl, by simp [exitEvent, Log.Stage.exit, Log.Stage.emptyInput], rfl⟩
  | unknown =>
    rw [List.mem_singleton.mp member]
    exact .menu ⟨.inl rfl, by simp [unknownEvent, Log.Stage.unknown, Log.Stage.emptyInput], rfl⟩
  | storeRejected _ inspected _ =>
    subst inspected
    refine loggedBy_of_mem_interpretation (.inl rfl) (fun _ => .storeValidator) ?_ member
    exact List.forall_mem_singleton.mpr (.menu (isOwn_rejectedEvent (.inl rfl)))
  | storeRun _ inspected _ =>
    subst inspected
    refine loggedBy_of_mem_interpretation (.inl rfl) (fun _ => .storeValidator) ?_ member
    exact List.forall_mem_cons.mpr
      ⟨.menu (isOwn_progress (.inl rfl) (by decide)), fun _ => .store⟩
  | deviceRejected _ inspected _ =>
    subst inspected
    refine loggedBy_of_mem_interpretation (.inr rfl) (fun _ => .deviceValidator) ?_ member
    exact List.forall_mem_singleton.mpr (.menu (isOwn_rejectedEvent (.inr rfl)))
  | deviceRun _ inspected accepted enqueued executed =>
    subst inspected enqueued executed
    refine loggedBy_of_mem_interpretation (.inr rfl) (fun _ => .deviceValidator) ?_ member
    refine List.forall_mem_cons.mpr ⟨.menu (isOwn_progress (.inr rfl) (by decide)), ?_⟩
    exact List.forall_mem_append.mpr ⟨fun _ => .queue, fun _ => .execution⟩

end TiltMenu.Menu
