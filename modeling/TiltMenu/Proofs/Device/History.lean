import TiltMenu.Proofs.Device.Execution

/-!
# Histories of the device

A controller is told to queue commands and to execute its queue, in any order. What the device
goes through is the list of its trials: the commands that were run, each with the fault with
which the device refused it, if it did (`Controller.trials`). A command that was discarded
behind a refused one is no trial.

The trials account for the controller: the device is what running them makes of it, and the log
holds those that were granted (`afterAll_eq`). Every fault of a trial is the answer of the device
at its turn (`tried_trials`).
-/

set_option autoImplicit false

namespace TiltMenu.Device

/-! ## Trials -/

/-- A command that was run on the device. -/
structure Trial where
  command : Command
  /-- Why the device refused the command, if it did. -/
  fault : Option Fault
  deriving DecidableEq, Repr

/-- The commands that were not refused. -/
def granted (trials : List Trial) : List Command :=
  (trials.filter (·.fault.isNone)).map Trial.command

theorem granted_append (first second : List Trial) :
    granted (first ++ second) = granted first ++ granted second := by
  rw [granted, List.filter_append, List.map_append, ← granted, ← granted]

namespace State

/-- The trials of a queue: its commands up to and including the first that is refused. -/
def trials (device : State) : List Command → List Trial
  | [] => []
  | command :: rest =>
    match device.refusal? command with
    | some fault => [⟨command, some fault⟩]
    | none => ⟨command, none⟩ :: (device.after command).trials rest

/-- The device after trials. -/
def afterTrials (device : State) (trials : List Trial) : State :=
  trials.foldl (fun device trial => device.after trial.command) device

theorem afterTrials_append (device : State) (first second : List Trial) :
    device.afterTrials (first ++ second) = (device.afterTrials first).afterTrials second :=
  List.foldl_append

/-- Each fault of the trials is the answer of the device at its turn. -/
def Tried (device : State) : List Trial → Prop
  | [] => True
  | first :: rest =>
    device.refusal? first.command = first.fault ∧ (device.after first.command).Tried rest

theorem tried_append_iff (device : State) (first second : List Trial) :
    device.Tried (first ++ second) ↔
      device.Tried first ∧ (device.afterTrials first).Tried second := by
  induction first generalizing device with
  | nil => simp [Tried, afterTrials]
  | cons trial rest ih =>
    rw [List.cons_append, Tried, Tried, ih, and_assoc]
    rfl

theorem trials_of_refused {device : State} {command : Command} {fault : Fault}
    (refusal : device.refusal? command = some fault) (rest : List Command) :
    device.trials (command :: rest) = [⟨command, some fault⟩] := by
  rw [trials, refusal]

theorem trials_of_granted {device : State} {command : Command}
    (refusal : device.refusal? command = none) (rest : List Command) :
    device.trials (command :: rest) = ⟨command, none⟩ :: (device.after command).trials rest := by
  rw [trials, refusal]

theorem tried_trials (device : State) (queue : List Command) :
    device.Tried (device.trials queue) := by
  induction queue generalizing device with
  | nil => trivial
  | cons command rest ih =>
    cases refusal : device.refusal? command with
    | some fault =>
      rw [trials_of_refused refusal]
      exact ⟨refusal, trivial⟩
    | none =>
      rw [trials_of_granted refusal]
      exact ⟨refusal, ih (device.after command)⟩

end State

/-! ## Executions -/

namespace Controller

/-- **Running a queue is trying its commands**: the device and the log are what the trials make
of them, and the run stops with the fault of a trial. -/
theorem runQueue_eq (controller : Controller) (queue : List Command) :
    (controller.runQueue queue).controller =
        { controller with
          device := controller.device.afterTrials (controller.device.trials queue)
          executed := controller.executed ++ granted (controller.device.trials queue) } ∧
      (controller.runQueue queue).fault =
        (controller.device.trials queue).findSome? Trial.fault := by
  induction queue generalizing controller with
  | nil => exact ⟨by simp [runQueue, State.trials, State.afterTrials, granted], rfl⟩
  | cons command rest ih =>
    cases refusal : controller.device.refusal? command with
    | some fault =>
      rw [State.trials_of_refused refusal, runQueue, refusal]
      exact ⟨by simp [State.afterTrials, granted], rfl⟩
    | none =>
      obtain ⟨left, fault⟩ := ih (controller.record command)
      rw [State.trials_of_granted refusal, runQueue, refusal]
      refine ⟨?_, fault⟩
      show ((controller.record command).runQueue rest).controller = _
      rw [left]
      simp [record, State.afterTrials, granted]

/-- **An execution tries the queue and leaves none.** -/
theorem state_execute (controller : Controller) :
    controller.execute.state =
      { pending := []
        executed := controller.executed ++ granted (controller.device.trials controller.pending)
        device :=
          controller.device.afterTrials (controller.device.trials controller.pending) } := by
  obtain ⟨pending, executed, device⟩ := controller
  cases pending with
  | nil => simp [execute, State.trials, State.afterTrials, granted]
  | cons command rest =>
    obtain ⟨left, _⟩ := runQueue_eq ⟨[], executed, device⟩ (command :: rest)
    rw [← left, execute]
    simp only [List.isEmpty_cons, Bool.false_eq_true, ↓reduceIte]
    split <;> rfl

/-- An execution succeeds if something is queued and nothing of it is refused. -/
theorem succeeded_execute_iff (controller : Controller) :
    controller.execute.succeeded = true ↔
      controller.pending ≠ [] ∧
        ∀ trial ∈ controller.device.trials controller.pending, trial.fault = none := by
  obtain ⟨pending, executed, device⟩ := controller
  cases pending with
  | nil => simp [execute]
  | cons command rest =>
    obtain ⟨_, fault⟩ := runQueue_eq ⟨[], executed, device⟩ (command :: rest)
    rw [← List.findSome?_eq_none_iff, ← fault, execute]
    simp only [List.isEmpty_cons, Bool.false_eq_true, ↓reduceIte]
    split
    · next stopped => simp [stopped]
    · next through => simp [through]

/-! ## Calls -/

/-- The trials that a call leads to. -/
def trialsOf (controller : Controller) : Executor.Call Command → List Trial
  | .enqueue _ => []
  | .execute => controller.device.trials controller.pending

/-- The trials that some calls lead to, in the order in which the commands are run. -/
def trials (controller : Controller) : List (Executor.Call Command) → List Trial
  | [] => []
  | call :: rest => controller.trialsOf call ++ (Executor.after controller call).trials rest

/-- What one call does to the device and to the log. -/
theorem after_eq (controller : Controller) (call : Executor.Call Command) :
    (Executor.after controller call).device =
        controller.device.afterTrials (controller.trialsOf call) ∧
      (Executor.after controller call).executed =
        controller.executed ++ granted (controller.trialsOf call) := by
  cases call with
  | enqueue commands => exact ⟨rfl, (List.append_nil _).symm⟩
  | execute =>
    have left : (Executor.after controller .execute) = _ := controller.state_execute
    rw [left]
    exact ⟨rfl, rfl⟩

/-- **The trials account for the device and for the log.** -/
theorem afterAll_eq (controller : Controller) (calls : List (Executor.Call Command)) :
    (Executor.afterAll controller calls).device =
        controller.device.afterTrials (controller.trials calls) ∧
      (Executor.afterAll controller calls).executed =
        controller.executed ++ granted (controller.trials calls) := by
  induction calls generalizing controller with
  | nil => exact ⟨rfl, (List.append_nil _).symm⟩
  | cons call rest ih =>
    obtain ⟨device, executed⟩ := controller.after_eq call
    obtain ⟨laterDevice, laterExecuted⟩ := ih (Executor.after controller call)
    rw [trials, State.afterTrials_append, granted_append, ← device, ← List.append_assoc,
      ← executed]
    exact ⟨laterDevice, laterExecuted⟩

/-- Each fault of the trials is the answer of the device at its turn, across all calls. -/
theorem tried_trials (controller : Controller) (calls : List (Executor.Call Command)) :
    controller.device.Tried (controller.trials calls) := by
  induction calls generalizing controller with
  | nil => trivial
  | cons call rest ih =>
    have later := ih (Executor.after controller call)
    rw [(controller.after_eq call).1] at later
    refine (State.tried_append_iff _ _ _).mpr ⟨?_, later⟩
    cases call with
    | enqueue commands => trivial
    | execute => exact State.tried_trials controller.device controller.pending

end Controller

end TiltMenu.Device
