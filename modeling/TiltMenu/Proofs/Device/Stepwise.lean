import TiltMenu.Proofs.Device.Replay

/-!
# A queue command by command

Executing a queue as a whole is the same as giving its commands to the controller one at a time
and stopping behind the first execution that fails (`executeSingly`). Both go through the same
trials of the device, up to the first refusal (`executeSingly_eq`, `execute_sameEffect`); only
what they log differs.

Commands that are executed one at a time can be cut anywhere (`executeSingly_append`), so a queue
can be cut as well. What an execution adds to the log is the longest front of the queue that the
device grants (`isLongestGranted`).
-/

set_option autoImplicit false

namespace TiltMenu

namespace Outcome

variable {σ : Type}

/-- The two outcomes differ in what they log at most. -/
def SameEffect (first second : Outcome σ) : Prop :=
  first.succeeded = second.succeeded ∧ first.state = second.state

/-- Goes on from the state left if the operation succeeded. -/
def onward (first : Outcome σ) (next : σ → Outcome σ) : Outcome σ :=
  if first.succeeded then (next first.state).logFirst first.events else first

theorem onward_of_succeeded {first : Outcome σ} (succeeded : first.succeeded = true)
    (next : σ → Outcome σ) : first.onward next = (next first.state).logFirst first.events :=
  if_pos succeeded

theorem onward_of_failed {first : Outcome σ} (failed : first.succeeded = false)
    (next : σ → Outcome σ) : first.onward next = first := by
  rw [onward, failed]
  rfl

@[simp]
theorem idle_onward (state : σ) (next : σ → Outcome σ) : (idle state).onward next = next state := by
  simp [onward, idle, logFirst]

theorem onward_assoc (first : Outcome σ) (second third : σ → Outcome σ) :
    (first.onward second).onward third =
      first.onward fun state => (second state).onward third := by
  cases succeeded : first.succeeded with
  | false => simp [onward, succeeded]
  | true =>
    cases later : (second first.state).succeeded with
    | false => simp [onward, logFirst, succeeded, later]
    | true => simp [onward, logFirst, succeeded, later]

/-- Going on in the same way from outcomes of the same effect leads to the same effect. -/
theorem SameEffect.onward {first second : Outcome σ} (same : first.SameEffect second)
    (next other : σ → Outcome σ) (later : (next second.state).SameEffect (other second.state)) :
    (first.onward next).SameEffect (second.onward other) := by
  obtain ⟨result, state⟩ := same
  cases succeeded : second.succeeded with
  | false =>
    rw [onward_of_failed succeeded, onward_of_failed (result.trans succeeded)]
    exact ⟨result, state⟩
  | true =>
    rw [onward_of_succeeded succeeded, onward_of_succeeded (result.trans succeeded), state]
    exact later

end Outcome

namespace Device

namespace Controller

/-! ## One at a time -/

/-- What comes of commands that are queued and executed one at a time, up to the first execution
that fails. -/
def executeSingly (controller : Controller) : List Command → Outcome Controller
  | [] => .idle controller
  | command :: rest =>
    (controller.enqueue [command]).execute.onward fun next => next.executeSingly rest

/-- **Commands that are executed one at a time can be cut anywhere.** -/
theorem executeSingly_append (controller : Controller) (first second : List Command) :
    controller.executeSingly (first ++ second) =
      (controller.executeSingly first).onward fun next => next.executeSingly second := by
  induction first generalizing controller with
  | nil => exact (Outcome.idle_onward controller fun next => next.executeSingly second).symm
  | cons command rest ih =>
    rw [List.cons_append, executeSingly, executeSingly, Outcome.onward_assoc]
    exact congrArg _ (funext ih)

/-- **Executing one at a time goes through the trials of the queue.** -/
theorem executeSingly_eq (controller : Controller) (idle : controller.pending = [])
    (queue : List Command) :
    ((controller.executeSingly queue).succeeded = true ↔
        ∀ trial ∈ controller.device.trials queue, trial.fault = none) ∧
      (controller.executeSingly queue).state =
        { pending := []
          executed := controller.executed ++ granted (controller.device.trials queue)
          device := controller.device.afterTrials (controller.device.trials queue) } := by
  induction queue generalizing controller with
  | nil =>
    obtain ⟨pending, executed, device⟩ := controller
    cases idle
    simp [executeSingly, Outcome.idle, State.trials, State.afterTrials, granted]
  | cons command rest ih =>
    have runs := execute_enqueue idle command
    rw [executeSingly]
    generalize (controller.enqueue [command]).execute = outcome at runs ⊢
    cases runs with
    | @refused fault refusal =>
      rw [Outcome.onward_of_failed rfl, State.trials_of_refused refusal]
      exact ⟨by simp, by simp [State.afterTrials, granted, idle]⟩
    | granted refusal =>
      obtain ⟨result, state⟩ := ih (controller.record command) idle
      rw [Outcome.onward_of_succeeded rfl, State.trials_of_granted refusal]
      refine ⟨result.trans (by simp [record]), state.trans ?_⟩
      rw [granted_cons_of_granted rfl]
      simp [record, State.afterTrials]

/-! ## As a whole -/

/-- **Executing a queue has the effect of executing its commands one at a time.** -/
theorem execute_sameEffect (controller : Controller) (filled : controller.pending ≠ []) :
    controller.execute.SameEffect
      ({ controller with pending := [] }.executeSingly controller.pending) := by
  obtain ⟨result, state⟩ :=
    executeSingly_eq { controller with pending := [] } rfl controller.pending
  refine ⟨Bool.eq_iff_iff.mpr ?_, controller.state_execute.trans state.symm⟩
  rw [succeeded_execute_iff, result]
  exact and_iff_right filled

/-- **A queue can be cut.** Executing its first part and then, if that succeeded, its second part
has the effect of executing it. -/
theorem execute_append_sameEffect (controller : Controller) {first second : List Command}
    (front : first ≠ []) (back : second ≠ []) :
    ({ controller with pending := first ++ second } : Controller).execute.SameEffect
      (({ controller with pending := first } : Controller).execute.onward fun next =>
        (next.enqueue second).execute) := by
  have whole := execute_sameEffect { controller with pending := first ++ second }
    (List.append_ne_nil_of_left_ne_nil front second)
  have before := execute_sameEffect { controller with pending := first } front
  rw [executeSingly_append] at whole
  -- The first part leaves nothing queued, so the second is all that the next execution runs.
  have idle := (executeSingly_eq { controller with pending := [] } rfl first).2
  generalize ({ controller with pending := [] } : Controller).executeSingly first = left
    at whole before idle
  have queued : (left.state.enqueue second).pending = second := by simp [enqueue, idle]
  have rested : { left.state.enqueue second with pending := [] } = left.state := by
    simp [enqueue, idle]
  have after := execute_sameEffect (left.state.enqueue second) (by rw [queued]; exact back)
  rw [queued, rested] at after
  have joined := before.onward (fun next => (next.enqueue second).execute)
    (fun next => next.executeSingly second) after
  exact ⟨whole.1.trans joined.1.symm, whole.2.trans joined.2.symm⟩

/-! ## What the log gains -/

/-- The front of the queue succeeds when it is executed one at a time, and no longer one does. -/
structure IsLongestGranted (controller : Controller) (queue front : List Command) : Prop where
  isFront : front <+: queue
  succeeds : (controller.executeSingly front).succeeded = true
  longest : ∀ other, other <+: queue → (controller.executeSingly other).succeeded = true →
    other <+: front

end Controller

namespace State

/-- What is granted of a queue is a front of it. -/
theorem granted_trials_prefix (device : State) (queue : List Command) :
    granted (device.trials queue) <+: queue := by
  induction queue generalizing device with
  | nil => exact List.prefix_rfl
  | cons command rest ih =>
    cases refusal : device.refusal? command with
    | some fault =>
      rw [trials_of_refused refusal, granted_cons_of_refused rfl]
      exact List.nil_prefix
    | none =>
      rw [trials_of_granted refusal, granted_cons_of_granted rfl]
      exact List.cons_prefix_cons.mpr ⟨rfl, ih _⟩

/-- What is granted of a queue is granted without the rest. -/
theorem trials_granted_trials (device : State) (queue : List Command) :
    ∀ trial ∈ device.trials (granted (device.trials queue)), trial.fault = none := by
  induction queue generalizing device with
  | nil => exact List.forall_mem_nil _
  | cons command rest ih =>
    cases refusal : device.refusal? command with
    | some fault =>
      rw [trials_of_refused refusal, granted_cons_of_refused rfl]
      exact List.forall_mem_nil _
    | none =>
      rw [trials_of_granted refusal, granted_cons_of_granted rfl, trials_of_granted refusal]
      exact List.forall_mem_cons.mpr ⟨rfl, ih _⟩

/-- A front that the device grants is granted as a front of the whole queue. -/
theorem prefix_granted_trials {device : State} {queue front : List Command}
    (isFront : front <+: queue) (through : ∀ trial ∈ device.trials front, trial.fault = none) :
    front <+: granted (device.trials queue) := by
  induction queue generalizing device front with
  | nil => exact isFront
  | cons command rest ih =>
    cases front with
    | nil => exact List.nil_prefix
    | cons first others =>
      obtain ⟨rfl, later⟩ := List.cons_prefix_cons.mp isFront
      cases refusal : device.refusal? first with
      | some fault =>
        rw [trials_of_refused refusal] at through
        cases through _ (List.mem_singleton_self _)
      | none =>
        rw [trials_of_granted refusal] at through ⊢
        rw [granted_cons_of_granted rfl]
        exact List.cons_prefix_cons.mpr ⟨rfl, ih later (List.forall_mem_cons.mp through).2⟩

end State

namespace Controller

/-- **What is granted of a queue is its longest front that succeeds.** -/
theorem isLongestGranted (controller : Controller) (idle : controller.pending = [])
    (queue : List Command) :
    controller.IsLongestGranted queue (granted (controller.device.trials queue)) where
  isFront := controller.device.granted_trials_prefix queue
  succeeds := (controller.executeSingly_eq idle _).1.mpr (controller.device.trials_granted_trials queue)
  longest := fun _ isFront succeeds =>
    State.prefix_granted_trials isFront ((controller.executeSingly_eq idle _).1.mp succeeds)

/-- A queue succeeds if it is its own longest front that does. -/
theorem IsLongestGranted.succeeds_iff {controller : Controller} {queue front : List Command}
    (longest : controller.IsLongestGranted queue front) :
    (controller.executeSingly queue).succeeded = true ↔ front = queue := by
  constructor
  · intro succeeds
    exact longest.isFront.eq_of_length_le (longest.longest queue List.prefix_rfl succeeds).length_le
  · rintro rfl
    exact longest.succeeds

/-- Queueing more and more commands fills the queue with all of them. -/
theorem afterAll_enqueue (controller : Controller) (parts : List (List Command)) :
    Executor.afterAll controller (parts.map .enqueue) =
      { controller with pending := controller.pending ++ parts.flatten } := by
  induction parts generalizing controller with
  | nil => simp [Executor.afterAll]
  | cons part rest ih =>
    have filled : Executor.afterAll controller ((part :: rest).map .enqueue) =
        Executor.afterAll (controller.enqueue part) (rest.map .enqueue) := rfl
    rw [filled, ih]
    simp [enqueue]

/-- **A queue is executed as its commands would be one at a time.** A controller in any state is
given commands in any number of parts. With nothing queued its execution fails and changes
nothing. Otherwise it empties the queue, and its result, device and log are those of the
controller with an empty queue to which the commands are given one at a time, until an execution
fails. The log gains exactly the longest front of the queue that succeeds in this way, and the
execution succeeds if that front is the whole queue. A queue that is cut in two, with the second
part executed only if the first succeeds, has the same effect. -/
theorem execute_is_stepwise (controller : Controller) (parts : List (List Command)) :
    let filled := Executor.afterAll controller (parts.map .enqueue)
    let idle := { controller with pending := [] }
    let queue := controller.pending ++ parts.flatten
    filled = { controller with pending := queue } ∧
    (queue = [] → filled.execute.succeeded = false ∧ filled.execute.state = filled) ∧
    (queue ≠ [] →
      filled.execute.state.pending = [] ∧
      filled.execute.SameEffect (idle.executeSingly queue) ∧
      (∃ front, idle.IsLongestGranted queue front ∧
        filled.execute.state.executed = controller.executed ++ front ∧
        (filled.execute.succeeded = true ↔ front = queue)) ∧
      ∀ first second, first ≠ [] → second ≠ [] → queue = first ++ second →
        filled.execute.SameEffect
          ((idle.enqueue first).execute.onward fun next => (next.enqueue second).execute)) := by
  intro filled idle queue
  have left : filled = { controller with pending := queue } := controller.afterAll_enqueue parts
  refine ⟨left, ?_, ?_⟩
  · intro empty
    rw [left, empty]
    exact ⟨rfl, rfl⟩
  · intro waiting
    have stepwise : filled.execute.SameEffect (idle.executeSingly queue) := by
      rw [left]
      exact execute_sameEffect { controller with pending := queue } waiting
    have longest : idle.IsLongestGranted queue (granted (idle.device.trials queue)) :=
      idle.isLongestGranted rfl queue
    have state := (idle.executeSingly_eq rfl queue).2
    refine ⟨by rw [stepwise.2, state], stepwise, ⟨_, longest, by rw [stepwise.2, state], ?_⟩, ?_⟩
    · rw [stepwise.1]
      exact longest.succeeds_iff
    · intro first second front back cut
      rw [left, cut]
      exact controller.execute_append_sameEffect front back

/-- A queue that is filled in three parts, refused in the middle and executed as a whole, command
by command, and cut behind the refused command. -/
theorem execute_is_stepwise_of_refused :
    let controller : Controller := ⟨[.calibrate], [.getInformation], {}⟩
    let parts : List (List Command) := [[.setTilt 7], [], [.resetSoftware, .getTilt, .calibrate]]
    let filled := Executor.afterAll controller (parts.map .enqueue)
    let idle := { controller with pending := [] }
    filled.execute.succeeded = false ∧
      filled.execute.state =
        ⟨[], [.getInformation, .calibrate, .setTilt 7, .resetSoftware], ⟨false, none, [], 1⟩⟩ ∧
      filled.execute.SameEffect
        (idle.executeSingly [.calibrate, .setTilt 7, .resetSoftware, .getTilt, .calibrate]) ∧
      filled.execute.SameEffect
        ((idle.enqueue [.calibrate, .setTilt 7, .resetSoftware, .getTilt]).execute.onward
          fun next => (next.enqueue [.calibrate]).execute) := by
  intro controller parts filled idle
  obtain ⟨_, _, onFilled⟩ := execute_is_stepwise controller parts
  obtain ⟨_, stepwise, _, cut⟩ := onFilled (by decide)
  exact ⟨by decide, by decide, stepwise, cut _ _ (by decide) (by decide) rfl⟩

end Controller

end Device

end TiltMenu
