import TiltMenu.Proofs.Device.History

/-!
# The log explains the device

The log of a controller holds the commands that the device did not refuse. A refused command
changes nothing but the alarms (`State.settled_after_of_refused`), and the alarms have no part in
what is refused (`State.refusal?_settled`). So what was granted once is granted again when the
refused commands are left out (`State.trials_granted`), and it leads to the same calibration,
tilt and number of resets (`State.settled_afterTrials`).

Hence a log that is given to a new controller as one queue is executed to its end, and the
controller is then as the one that wrote the log, but without alarms (`executed_explains`,
`replay_executed`).
-/

set_option autoImplicit false

namespace TiltMenu.Device

/-- Trials without refusal. -/
def allGranted (commands : List Command) : List Trial :=
  commands.map fun command => ⟨command, none⟩

theorem granted_allGranted (commands : List Command) :
    granted (allGranted commands) = commands := by
  simp [granted, allGranted, List.filter_map, Function.comp_def]

theorem granted_cons_of_refused {trial : Trial} {fault : Fault} (refused : trial.fault = some fault)
    (rest : List Trial) : granted (trial :: rest) = granted rest := by
  simp [granted, refused]

theorem granted_cons_of_granted {trial : Trial} (unrefused : trial.fault = none)
    (rest : List Trial) : granted (trial :: rest) = trial.command :: granted rest := by
  simp [granted, unrefused]

namespace State

/-- The device without its alarms. -/
def settled (device : State) : State := { device with alarms := [] }

/-- What the device refuses does not depend on its alarms. -/
@[simp]
theorem refusal?_settled (device : State) (command : Command) :
    device.settled.refusal? command = device.refusal? command := by
  cases command <;> rfl

@[simp]
theorem settled_raise (device : State) (alarm : Alarm) :
    (device.raise alarm).settled = device.settled := by
  unfold raise
  split <;> rfl

/-- **A refused command changes the alarms only.** -/
theorem settled_after_of_refused {device : State} {command : Command} {fault : Fault}
    (refusal : device.refusal? command = some fault) :
    (device.after command).settled = device.settled := by
  obtain ⟨uncalibrated, moves, _⟩ := (refusal?_eq_some_iff _ _ _).mp refusal
  cases command with
  | setTilt tilt => simp [after, uncalibrated]
  | getTilt => rfl
  | calibrate => simp [Command.procedure] at moves
  | getAlarmStatus => rfl
  | clearActiveAlarms => rfl
  | resetSoftware => simp [Command.procedure] at moves
  | getInformation => rfl

/-- A command that is not refused does to the device what it does without the alarms. -/
theorem settled_after_of_granted {device : State} {command : Command}
    (refusal : device.refusal? command = none) :
    (device.after command).settled = device.settled.after command := by
  cases command with
  | setTilt tilt =>
    have calibrated := (refusal?_setTilt device tilt).mp refusal
    simp [after, settled, calibrated]
  | getTilt => rfl
  | calibrate => rfl
  | getAlarmStatus => rfl
  | clearActiveAlarms => rfl
  | resetSoftware => rfl
  | getInformation => rfl

/-- **What was granted once is granted again without what was refused.** -/
theorem trials_granted {device : State} {trials : List Trial} (tried : device.Tried trials) :
    device.settled.trials (granted trials) = allGranted (granted trials) := by
  induction trials generalizing device with
  | nil => rfl
  | cons trial rest ih =>
    obtain ⟨answer, later⟩ := tried
    have onward := ih later
    cases outcome : trial.fault with
    | some fault =>
      rw [outcome] at answer
      rw [settled_after_of_refused answer] at onward
      rw [granted_cons_of_refused outcome]
      exact onward
    | none =>
      rw [outcome] at answer
      rw [settled_after_of_granted answer] at onward
      rw [granted_cons_of_granted outcome,
        trials_of_granted ((refusal?_settled _ _).trans answer), onward]
      rfl

/-- **Calibration, tilt and resets are what the granted commands make of them.** -/
theorem settled_afterTrials {device : State} {trials : List Trial} (tried : device.Tried trials) :
    (device.afterTrials trials).settled =
      device.settled.afterTrials (allGranted (granted trials)) := by
  induction trials generalizing device with
  | nil => rfl
  | cons trial rest ih =>
    obtain ⟨answer, later⟩ := tried
    have onward : (device.afterTrials (trial :: rest)).settled = _ := ih later
    cases outcome : trial.fault with
    | some fault =>
      rw [outcome] at answer
      rw [onward, settled_after_of_refused answer, granted_cons_of_refused outcome]
    | none =>
      rw [outcome] at answer
      rw [onward, settled_after_of_granted answer, granted_cons_of_granted outcome]
      rfl

end State

namespace Controller

/-- What comes of a log that is given to a new controller as one queue and executed. A log
without commands needs no execution. -/
def replay (log : List Command) : Outcome Controller :=
  if log.isEmpty then .idle {} else (enqueue {} log).execute

/-- A log that the device of a new controller grants is replayed to its end. -/
theorem replay_of_granted {log : List Command}
    (through : ({} : State).trials log = allGranted log) :
    (replay log).succeeded = true ∧
      (replay log).state = ⟨[], log, ({} : State).afterTrials (allGranted log)⟩ := by
  cases log with
  | nil => exact ⟨rfl, rfl⟩
  | cons first rest =>
    constructor
    · refine (succeeded_execute_iff (enqueue {} (first :: rest))).mpr ⟨List.cons_ne_nil _ _, ?_⟩
      show ∀ trial ∈ ({} : State).trials (first :: rest), trial.fault = none
      rw [through]
      intro trial member
      obtain ⟨command, _, rfl⟩ := List.mem_map.mp member
      rfl
    · have left : (enqueue {} (first :: rest)).execute.state =
          ⟨[], granted (({} : State).trials (first :: rest)),
            ({} : State).afterTrials (({} : State).trials (first :: rest))⟩ := state_execute _
      rw [through, granted_allGranted] at left
      exact left

/-- **A new device grants the log**, and the log makes of it the device of the controller without
its alarms. -/
theorem executed_explains (calls : List (Executor.Call Command)) :
    let controller := Executor.afterAll ({} : Controller) calls
    ({} : State).trials controller.executed = allGranted controller.executed ∧
      controller.device.settled =
        ({} : State).afterTrials (allGranted controller.executed) := by
  intro controller
  obtain ⟨device, executed⟩ := afterAll_eq {} calls
  have tried := tried_trials {} calls
  have log : controller.executed = granted (trials {} calls) := executed
  rw [log, device]
  exact ⟨State.trials_granted tried, State.settled_afterTrials tried⟩

/-- **Replaying the log gives the controller again.** A new controller is told to queue and to
execute any commands in any order, some of which are refused or discarded. Its log, given to a
second new controller as one queue, is executed to its end and written again. The two devices
agree in calibration, tilt and resets; the second has no alarm and nothing queued. So the three
depend on the log only, whatever else was queued, refused or discarded. -/
theorem replay_executed (calls : List (Executor.Call Command)) :
    let controller := Executor.afterAll ({} : Controller) calls
    let replayed := replay controller.executed
    replayed.succeeded = true ∧
      replayed.state =
        { pending := []
          executed := controller.executed
          device :=
            { calibrated := controller.device.calibrated
              tilt := controller.device.tilt
              alarms := []
              resets := controller.device.resets } } ∧
      ∀ others : List (Executor.Call Command),
        (Executor.afterAll ({} : Controller) others).executed = controller.executed →
        (Executor.afterAll ({} : Controller) others).device.calibrated =
            controller.device.calibrated ∧
          (Executor.afterAll ({} : Controller) others).device.tilt = controller.device.tilt ∧
          (Executor.afterAll ({} : Controller) others).device.resets =
            controller.device.resets := by
  intro controller replayed
  obtain ⟨through, device⟩ := executed_explains calls
  obtain ⟨succeeded, state⟩ := replay_of_granted through
  refine ⟨succeeded, ?_, ?_⟩
  · rw [state, ← device]
    rfl
  · intro others same
    obtain ⟨_, other⟩ := executed_explains others
    rw [same, ← device, State.settled, State.settled, State.mk.injEq] at other
    obtain ⟨calibrated, tilt, _, resets⟩ := other
    exact ⟨calibrated, tilt, resets⟩

/-- A history with a refused question, a refused move and two discarded calibrations, and the
history of its log in two queues. -/
theorem replay_executed_of_refused :
    let calls : List (Executor.Call Command) :=
      [.enqueue [.getTilt, .calibrate], .execute,
        .enqueue [.calibrate, .setTilt 40, .resetSoftware], .enqueue [.setTilt 50, .calibrate],
        .execute]
    let others : List (Executor.Call Command) :=
      [.enqueue [.calibrate], .execute, .enqueue [.setTilt 40, .resetSoftware], .execute]
    let controller := Executor.afterAll ({} : Controller) calls
    controller.executed = [.calibrate, .setTilt 40, .resetSoftware] ∧
      controller.device.alarms = [.notCalibrated] ∧
      (replay controller.executed).succeeded = true ∧
      (replay controller.executed).state.device = ⟨false, none, [], 1⟩ ∧
      (Executor.afterAll ({} : Controller) others).executed = controller.executed ∧
      (Executor.afterAll ({} : Controller) others).device.resets = controller.device.resets := by
  intro calls others controller
  obtain ⟨succeeded, state, alike⟩ := replay_executed calls
  have same : (Executor.afterAll ({} : Controller) others).executed = controller.executed := by
    decide
  refine ⟨by decide, by decide, succeeded, ?_, same, (alike others same).2.2⟩
  rw [state]
  decide

end Controller

end TiltMenu.Device
