import TiltMenu.Menu.Stock
import TiltMenu.Proofs.Device.Execution
import TiltMenu.Proofs.Device.Tilt
import TiltMenu.Proofs.Menu.Dispatch
import TiltMenu.Proofs.Menu.Operation
import TiltMenu.Proofs.Store.Events

/-!
# Safety of the tilt

The stock menu queues a command of the device only after checking it, and executes it at
once against the store it was checked against. Between two command lines the queue is
empty, so an execution runs the command that was just checked and nothing else
(`keepsTiltSafe_dispatch`).

That the queue is empty lasts through every history in which the executor is reached through
the menu only (`idle_history`). A batch or a session in progress is such a history as well,
since it does nothing but dispatch command lines (`Menu.after_batch`,
`Menu.exists_after_sessionPart`). A change of the executor past the menu may leave a command
in the queue that is run later, whatever the store then says.
-/

set_option autoImplicit false

namespace TiltMenu.StockMenu

open Device (Command Controller)
open Log (Event)
open Menu (Dispatches Lasting Operation)

/-! ## One dispatch -/

/-- The device was moved to a tilt by a command line that was checked against the store. -/
structure MovedSafely (before after : StockMenu) (tilt : Int64) : Prop where
  calibrated : before.executor.device.calibrated = true
  sameStore : after.store = before.store
  allowed : ∃ min max step,
    before.store.int Store.Key.minTilt = .ok min ∧
    before.store.int Store.Key.maxTilt = .ok max ∧
    before.store.int Store.Key.tiltStep = .ok step ∧
    min.toInt ≤ tilt.toInt ∧ tilt.toInt ≤ max.toInt ∧
    0 < step.toInt ∧ step.toInt ∣ tilt.toInt - min.toInt
  appended : after.executor.executed = before.executor.executed ++ [.setTilt tilt]
  moved : after.executor.device.tilt = some tilt

/-- What a dispatch does to the executor: the queue is empty afterwards, at most one command
is added to the history, and the tilt changes by moves only that are safe. -/
structure KeepsTiltSafe (before after : StockMenu) : Prop where
  idle : after.executor.pending = []
  recorded : after.executor.executed = before.executor.executed ∨
    ∃ command, after.executor.executed = before.executor.executed ++ [command] ∧
      ∀ tilt, command = .setTilt tilt → MovedSafely before after tilt
  tilt : ∀ tilt, after.executor.device.tilt = some tilt →
    before.executor.device.tilt = some tilt ∨ MovedSafely before after tilt

/-- Leaving the executor alone is safe. -/
theorem keepsTiltSafe_of_executor_eq {before after : StockMenu}
    (idle : before.executor.pending = []) (same : after.executor = before.executor) :
    KeepsTiltSafe before after where
  idle := same ▸ idle
  recorded := .inl (by rw [same])
  tilt := by
    intro tilt reached
    rw [same] at reached
    exact .inl reached

/-- What the window of a store admits is allowed by the three tilt parameters. -/
theorem allowed_of_parse {store : Store} {commandLine : CommandLine} {tilt : Int64}
    (read : Command.parse store commandLine = .ok (.setTilt tilt)) :
    ∃ min max step,
      store.int Store.Key.minTilt = .ok min ∧ store.int Store.Key.maxTilt = .ok max ∧
      store.int Store.Key.tiltStep = .ok step ∧
      min.toInt ≤ tilt.toInt ∧ tilt.toInt ≤ max.toInt ∧
      0 < step.toInt ∧ step.toInt ∣ tilt.toInt - min.toInt := by
  obtain ⟨_, _, _, window, present, admitted⟩ := (Command.parse_eq_setTilt_iff _ _ _).mp read
  obtain ⟨lower, upper, grid⟩ := (Device.Window.ofStore_eq_ok_iff _ _).mp present
  obtain ⟨allows, _⟩ := (window.admits_iff tilt).mp admitted
  exact ⟨window.min, window.max, window.step, lower, upper, grid, allows.above, allows.below,
    allows.positive, allows.grid⟩

/-- Running a command that was read against the store is safe. -/
theorem keepsTiltSafe_of_runs {before after : StockMenu} {commandLine : CommandLine}
    {command : Command} {outcome : Outcome Controller} (idle : before.executor.pending = [])
    (read : Command.parse before.store commandLine = .ok command)
    (runs : Controller.Runs before.executor command outcome)
    (sameStore : after.store = before.store) (executor : after.executor = outcome.state) :
    KeepsTiltSafe before after := by
  cases runs with
  | refused refusal =>
    refine ⟨executor ▸ idle, .inl (by rw [executor]), ?_⟩
    intro tilt reached
    rw [executor] at reached
    rcases Device.State.tilt_after reached with there | ⟨calibrated, rfl⟩
    · exact .inl there
    · rw [(Device.State.refusal?_setTilt _ tilt).mpr calibrated] at refusal
      cases refusal
  | granted refusal =>
    have safe : ∀ tilt, command = .setTilt tilt → MovedSafely before after tilt := by
      rintro tilt rfl
      have calibrated := (Device.State.refusal?_setTilt _ tilt).mp refusal
      refine ⟨calibrated, sameStore, allowed_of_parse read, by rw [executor]; rfl, ?_⟩
      rw [executor]
      exact Device.State.tilt_after_setTilt calibrated tilt
    refine ⟨executor ▸ idle, .inr ⟨command, by rw [executor]; rfl, safe⟩, ?_⟩
    intro tilt reached
    rw [executor] at reached
    rcases Device.State.tilt_after reached with there | ⟨_, move⟩
    · exact .inl there
    · exact .inr (safe tilt move)

/-- **A dispatch on an empty queue is safe.** -/
theorem keepsTiltSafe_dispatch {menu : StockMenu} (idle : menu.executor.pending = [])
    (commandLine : CommandLine) : KeepsTiltSafe menu (menu.dispatch commandLine).state := by
  have way := menu.dispatches commandLine
  generalize menu.dispatch commandLine = outcome at way ⊢
  cases way with
  | empty => exact keepsTiltSafe_of_executor_eq idle rfl
  | help => exact keepsTiltSafe_of_executor_eq idle rfl
  | exit => exact keepsTiltSafe_of_executor_eq idle rfl
  | unknown => exact keepsTiltSafe_of_executor_eq idle rfl
  | storeRejected => exact keepsTiltSafe_of_executor_eq idle rfl
  | storeRun => exact keepsTiltSafe_of_executor_eq idle rfl
  | deviceRejected => exact keepsTiltSafe_of_executor_eq idle rfl
  | deviceRun _ inspected accepted enqueued executed =>
    subst inspected enqueued executed
    have read := (Verdict.accepted_ofReading_iff _ _ _ _).mp accepted
    exact keepsTiltSafe_of_runs idle read (Controller.execute_enqueue idle _) rfl rfl

/-! ## Events of one dispatch -/

/-- What a validator that reads command lines logs tells of no execution. -/
theorem ofFilledQueue_of_mem_ofReading {ν κ : Type} {validator : ν} {commandLine : CommandLine}
    {reading : Except Fault κ} {event : Event}
    (member : event ∈ (Verdict.ofReading validator commandLine reading).events) :
    Controller.OfFilledQueue event := by
  obtain ⟨fault, rfl⟩ := Verdict.eq_rejected_of_mem member
  exact Controller.ofFilledQueue_of_other (by simp [rejected, Controller.operation]) rfl

theorem ofFilledQueue_of_mem_run {store : Store} {commandLine : CommandLine} {event : Event}
    (member : event ∈ (store.run commandLine).events) : Controller.OfFilledQueue event := by
  obtain ⟨operation, code⟩ := Store.of_mem_run_events member
  have other : event.operation ≠ some Controller.operation := by
    rcases operation with nameless | named
    · simp [nameless]
    · simp [named, Store.operation, Controller.operation]
  rcases code with absent | ⟨fault, failed, named⟩
  · exact Controller.ofFilledQueue_of_other other absent
  · refine ⟨fun same => absurd same other, ?_⟩
    rw [named]
    intro same
    rw [Option.some.injEq, Log.Datum.text.injEq] at same
    have kind := Store.kind_of_execute_error failed
    rw [FaultKind.code_injective same] at kind
    simp [Store.faultKinds] at kind

/-- The events of the menu itself tell of no execution. -/
theorem ofFilledQueue_of_isOwn {event : Event} (own : Menu.IsOwn event) :
    Controller.OfFilledQueue event := by
  refine Controller.ofFilledQueue_of_other ?_ own.blameless
  rcases own.operation with chosen | stored | moved
  · simp [chosen, Controller.operation]
  · simp [stored, Menu.storeInterpretation, Controller.operation]
  · simp [moved, Menu.deviceInterpretation, Controller.operation]

/-- **No event of a dispatch on an empty queue tells of an execution with nothing queued.** -/
theorem ofFilledQueue_of_mem_dispatch {menu : StockMenu} (idle : menu.executor.pending = [])
    {commandLine : CommandLine} {event : Event}
    (member : event ∈ (menu.dispatch commandLine).events) : Controller.OfFilledQueue event := by
  cases Menu.loggedBy member with
  | wordless empty told =>
    have chosen : event.operation = some "dispatch" ∧
        event.detail? Log.FieldName.errorCode = none := by
      simp only [Menu.emptyEvents, List.mem_cons, List.not_mem_nil, or_false] at told
      rcases told with rfl | rfl
      · exact ⟨rfl, rfl⟩
      · exact ⟨rfl, rfl⟩
    exact Controller.ofFilledQueue_of_other (by simp [chosen.1, Controller.operation]) chosen.2
  | menu own => exact ofFilledQueue_of_isOwn own
  | storeValidator judged => exact ofFilledQueue_of_mem_ofReading judged
  | deviceValidator judged => exact ofFilledQueue_of_mem_ofReading judged
  | store ran => exact ofFilledQueue_of_mem_run ran
  | queue queued => cases queued
  | execution executed =>
    exact Controller.ofFilledQueue_of_runs (Controller.execute_enqueue idle _) executed

/-! ## Histories -/

/-- That nothing is queued lasts. -/
theorem lasting_idle : Lasting fun menu : StockMenu => menu.executor.pending = [] where
  dispatch := fun _ commandLine idle => (keepsTiltSafe_dispatch idle commandLine).idle
  families := fun _ _ idle => idle

/-- **Nothing is queued between two command lines.** -/
theorem idle_history (name : String) (store : Store) (operations : List (Operation Controller))
    (mediated : ∀ operation ∈ operations, operation.IsMediated) :
    ((StockMenu.new name store).history operations).executor.pending = [] :=
  lasting_idle.history rfl operations fun _ member => absurd (mediated _ member) id

/-- **The tilt is safe in every history.** Between two command lines nothing is queued, and
no dispatch executes an empty queue. A move that a dispatch adds to the history of the
device was made while the device was calibrated, to a tilt that the store before and after
allows in the sense of the exact integers, as the only command of that dispatch, and the
device is at that tilt. The device comes to a tilt in no other way. -/
theorem tilt_safety (name : String) (store : Store) (operations : List (Operation Controller))
    (mediated : ∀ operation ∈ operations, operation.IsMediated) (commandLine : CommandLine) :
    let before := (StockMenu.new name store).history operations
    let outcome := before.dispatch commandLine
    before.executor.pending = [] ∧ outcome.state.executor.pending = [] ∧
    (∀ event ∈ outcome.events, Controller.OfFilledQueue event) ∧
    before.executor.executed <+: outcome.state.executor.executed ∧
    (∀ tilt,
      .setTilt tilt ∈ outcome.state.executor.executed.drop before.executor.executed.length →
        MovedSafely before outcome.state tilt) ∧
    ∀ tilt, outcome.state.executor.device.tilt = some tilt →
      before.executor.device.tilt = some tilt ∨ MovedSafely before outcome.state tilt := by
  intro before outcome
  have idle : before.executor.pending = [] := idle_history name store operations mediated
  have safe : KeepsTiltSafe before outcome.state := keepsTiltSafe_dispatch idle commandLine
  refine ⟨idle, safe.idle, fun _ member => ofFilledQueue_of_mem_dispatch idle member, ?_, ?_,
    safe.tilt⟩
  · rcases safe.recorded with same | ⟨command, added, _⟩
    · exact same ▸ List.prefix_rfl
    · exact added ▸ List.prefix_append _ _
  · intro tilt recorded
    rcases safe.recorded with same | ⟨command, added, moves⟩
    · rw [same, List.drop_length] at recorded
      cases recorded
    · rw [added, List.drop_left, List.mem_singleton] at recorded
      exact moves tilt recorded.symm

/-- A calibrated device whose window was narrowed in a batch is moved to a tilt in it. -/
theorem tilt_safety_of_narrowed_window :
    let operations : List (Operation Controller) :=
      [.configure Config.defaults, .dispatch ["Calibrate"],
        .batch [["setdb", "max_tilt", "60"], ["setdb", "tilt_step", "5"]],
        .dispatch ["SetTilt", "61"]]
    let before := (StockMenu.new "menu" .defaults).history operations
    before.store.int Store.Key.maxTilt = .ok 60 ∧ before.executor.executed = [.calibrate] ∧
      MovedSafely before (before.dispatch ["SetTilt", "55"]).state 55 := by
  intro operations before
  have mediated : ∀ operation ∈ operations, operation.IsMediated := by
    simp [operations, Operation.IsMediated]
  obtain ⟨_, _, _, _, moves, _⟩ :=
    tilt_safety "menu" .defaults operations mediated ["SetTilt", "55"]
  exact ⟨rfl, rfl, moves 55 (List.mem_singleton_self _)⟩

end TiltMenu.StockMenu
