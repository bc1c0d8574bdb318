import TiltMenu.Proofs.Device.History

/-!
# Which alarms are active

A device that has a tilt is calibrated, a calibrated device has no alarm, and there is never
more than one alarm (`State.Sound`). Every command keeps this, refused or not
(`State.sound_after`).

The alarm about a missing calibration is the memory of a move that was refused: a refused move
raises it, calibrating and clearing silence it, and nothing else touches it
(`State.notCalibrated_mem_after_iff`). So it is active exactly if some refused move has no
calibration and no clearing behind it in the trials of the device (`Unanswered`). This is said of
what was run, in the order in which it was run, however it was queued (`alarm_history`).
-/

set_option autoImplicit false

namespace TiltMenu.Device

namespace State

/-! ## What every command keeps -/

/-- What holds of a device at all times. -/
structure Sound (device : State) : Prop where
  tilt : device.tilt ≠ none → device.calibrated = true
  silent : device.calibrated = true → device.alarms = []
  single : device.alarms.length ≤ 1

/-- There is only one alarm to raise, so raising it leaves one. -/
theorem length_alarms_raise {device : State} (single : device.alarms.length ≤ 1) (alarm : Alarm) :
    (device.raise alarm).alarms.length ≤ 1 := by
  unfold raise
  split
  · exact single
  · next absent =>
    have none_ : device.alarms = [] := by
      rw [List.eq_nil_iff_forall_not_mem]
      intro other member
      cases other
      cases alarm
      exact absent member
    simp [none_]

@[simp]
theorem calibrated_raise (device : State) (alarm : Alarm) :
    (device.raise alarm).calibrated = device.calibrated := by
  unfold raise
  split <;> rfl

/-- **Every command keeps the device sound**, whether or not the device refuses it. -/
theorem sound_after {device : State} (sound : device.Sound) (command : Command) :
    (device.after command).Sound := by
  cases command with
  | setTilt tilt =>
    cases calibrated : device.calibrated with
    | true =>
      simp only [after, calibrated, ↓reduceIte]
      exact ⟨fun _ => rfl, fun _ => sound.silent calibrated, sound.single⟩
    | false =>
      simp only [after, calibrated, Bool.false_eq_true, ↓reduceIte]
      refine ⟨?_, ?_, length_alarms_raise sound.single _⟩
      · rw [tilt_raise, calibrated_raise]
        exact sound.tilt
      · rw [calibrated_raise, calibrated]
        exact fun same => Bool.noConfusion same
  | getTilt => exact sound
  | calibrate =>
    have silenced : (device.after .calibrate).alarms = [] := by
      refine List.filter_eq_nil_iff.mpr fun alarm _ => ?_
      cases alarm
      decide
    exact ⟨fun _ => rfl, fun _ => silenced, by rw [silenced]; exact Nat.zero_le 1⟩
  | getAlarmStatus => exact sound
  | clearActiveAlarms => exact ⟨sound.tilt, fun _ => rfl, Nat.zero_le 1⟩
  | resetSoftware =>
    exact ⟨fun moved => absurd rfl moved, fun same => Bool.noConfusion same, sound.single⟩
  | getInformation => exact sound

theorem sound_afterTrials {device : State} (sound : device.Sound) (trials : List Trial) :
    (device.afterTrials trials).Sound := by
  induction trials generalizing device with
  | nil => exact sound
  | cons trial rest ih => exact ih (sound_after sound trial.command)

/-! ## The alarm about a missing calibration -/

/-- **What one command does to the alarm.** A move raises it if the device is not calibrated;
otherwise it stays as it was unless the command calibrates or clears. -/
theorem notCalibrated_mem_after_iff (device : State) (command : Command) :
    .notCalibrated ∈ (device.after command).alarms ↔
      command.procedure = .setTilt ∧ device.calibrated = false ∨
        .notCalibrated ∈ device.alarms ∧ command ≠ .calibrate ∧ command ≠ .clearActiveAlarms := by
  cases command with
  | setTilt tilt =>
    cases calibrated : device.calibrated with
    | true => simp [after, calibrated, Command.procedure]
    | false =>
      have raised : .notCalibrated ∈ (device.raise .notCalibrated).alarms := by
        unfold raise
        split
        · assumption
        · exact List.mem_append_right _ (List.mem_singleton_self _)
      simp [after, calibrated, raised, Command.procedure]
  | getTilt => simp [after, Command.procedure]
  | calibrate => simp [after, Command.procedure]
  | getAlarmStatus => simp [after, Command.procedure]
  | clearActiveAlarms => simp [after, Command.procedure]
  | resetSoftware => simp [after, Command.procedure]
  | getInformation => simp [after, Command.procedure]

end State

/-- The device refused to move because it was not calibrated. -/
def Trial.Raises (trial : Trial) : Prop :=
  ∃ tilt, trial = ⟨.setTilt tilt, some (.notCalibrated Procedure.setTilt.name)⟩

/-- The device was calibrated, or its alarms were cleared. -/
def Trial.Silences (trial : Trial) : Prop :=
  trial.command = .calibrate ∨ trial.command = .clearActiveAlarms

/-- Some move was refused for want of calibration, and the device was neither calibrated nor
cleared of its alarms after it. -/
def Unanswered (trials : List Trial) : Prop :=
  ∃ earlier move later, trials = earlier ++ move :: later ∧ move.Raises ∧
    ∀ trial ∈ later, ¬ trial.Silences

theorem unanswered_cons_iff (first : Trial) (rest : List Trial) :
    Unanswered (first :: rest) ↔
      (first.Raises ∧ ∀ trial ∈ rest, ¬ trial.Silences) ∨ Unanswered rest := by
  constructor
  · rintro ⟨earlier, move, later, cut, raises, calm⟩
    rcases List.cons_eq_append_iff.mp cut with ⟨_, same⟩ | ⟨front, _, same⟩
    · cases same
      exact .inl ⟨raises, calm⟩
    · exact .inr ⟨front, move, later, same, raises, calm⟩
  · rintro (⟨raises, calm⟩ | ⟨earlier, move, later, rfl, raises, calm⟩)
    · exact ⟨[], first, rest, rfl, raises, calm⟩
    · exact ⟨first :: earlier, move, later, rfl, raises, calm⟩

namespace State

/-- A trial raises the alarm if it is a move on a device that is not calibrated. -/
theorem raises_iff {device : State} {trial : Trial}
    (answer : device.refusal? trial.command = trial.fault) :
    trial.Raises ↔ trial.command.procedure = .setTilt ∧ device.calibrated = false := by
  obtain ⟨command, fault⟩ := trial
  constructor
  · rintro ⟨tilt, same⟩
    cases same
    exact ⟨rfl, ((refusal?_eq_some_iff _ _ _).mp answer).1⟩
  · rintro ⟨moves, uncalibrated⟩
    cases command with
    | setTilt tilt =>
      have refused := (refusal?_eq_some_iff _ _ _).mpr ⟨uncalibrated, .inl moves, rfl⟩
      have same : fault = some (.notCalibrated Procedure.setTilt.name) := answer.symm.trans refused
      exact ⟨tilt, by rw [same]⟩
    | getTilt => cases moves
    | calibrate => cases moves
    | getAlarmStatus => cases moves
    | clearActiveAlarms => cases moves
    | resetSoftware => cases moves
    | getInformation => cases moves

/-- **The alarm is active after trials exactly if a refused move among them is unanswered**, or
it was active before and nothing silenced it. -/
theorem notCalibrated_mem_afterTrials_iff {device : State} {trials : List Trial}
    (tried : device.Tried trials) :
    .notCalibrated ∈ (device.afterTrials trials).alarms ↔
      Unanswered trials ∨
        .notCalibrated ∈ device.alarms ∧ ∀ trial ∈ trials, ¬ trial.Silences := by
  induction trials generalizing device with
  | nil => simp [afterTrials, Unanswered]
  | cons first rest ih =>
    obtain ⟨answer, later⟩ := tried
    have here : .notCalibrated ∈ (device.after first.command).alarms ↔
        first.Raises ∨ .notCalibrated ∈ device.alarms ∧ ¬ first.Silences := by
      rw [notCalibrated_mem_after_iff, ← raises_iff answer, Trial.Silences, not_or]
    have onward : .notCalibrated ∈ (device.afterTrials (first :: rest)).alarms ↔ _ := ih later
    rw [onward, here, unanswered_cons_iff, List.forall_mem_cons, or_and_right, and_assoc,
      or_left_comm, ← or_assoc]

/-- Asking for the tilt and a reset leave the alarms as they are, refused or not. -/
theorem alarms_after_of_neutral (device : State) {command : Command}
    (neutral : command = .getTilt ∨ command = .resetSoftware) :
    (device.after command).alarms = device.alarms := by
  rcases neutral with rfl | rfl
  · rfl
  · rfl

end State

/-- **The alarms of a device are its history.** A new controller is told to queue and to execute
any commands in any order. Its device has a tilt only if it is calibrated, has no alarm if it is,
and never more than one. The alarm about a missing calibration is active exactly if, among the
commands that were run, a move was refused for want of calibration with no calibration and no
clearing run after it. Asking for the tilt raises no alarm, also when it is refused, and a reset
neither raises nor clears one. -/
theorem alarm_history (calls : List (Executor.Call Command)) :
    let controller := Executor.afterAll ({} : Controller) calls
    let trials := Controller.trials {} calls
    (controller.device = ({} : State).afterTrials trials ∧ controller.executed = granted trials ∧
      ({} : State).Tried trials) ∧
    (controller.device.tilt ≠ none → controller.device.calibrated = true) ∧
    (controller.device.calibrated = true → controller.device.alarms = []) ∧
    controller.device.alarms.length ≤ 1 ∧
    (.notCalibrated ∈ controller.device.alarms ↔
      ∃ earlier tilt later,
        trials =
          earlier ++ ⟨.setTilt tilt, some (.notCalibrated Procedure.setTilt.name)⟩ :: later ∧
        ∀ trial ∈ later, trial.command ≠ .calibrate ∧ trial.command ≠ .clearActiveAlarms) ∧
    ∀ earlier trial later, trials = earlier ++ trial :: later →
      trial.command = .getTilt ∨ trial.command = .resetSoftware →
      (({} : State).afterTrials (earlier ++ [trial])).alarms =
        (({} : State).afterTrials earlier).alarms := by
  intro controller trials
  obtain ⟨device, executed⟩ := Controller.afterAll_eq {} calls
  have tried : ({} : State).Tried trials := Controller.tried_trials {} calls
  have new : ({} : State).Sound :=
    ⟨fun moved => absurd rfl moved, fun _ => rfl, Nat.zero_le 1⟩
  have sound : controller.device.Sound := by
    rw [device]
    exact State.sound_afterTrials new trials
  refine ⟨⟨device, executed, tried⟩, sound.tilt, sound.silent, sound.single, ?_, ?_⟩
  · have active : .notCalibrated ∈ controller.device.alarms ↔ Unanswered trials := by
      rw [device]
      refine (State.notCalibrated_mem_afterTrials_iff tried).trans (or_iff_left ?_)
      rintro ⟨member, _⟩
      cases member
    rw [active]
    constructor
    · rintro ⟨earlier, _, later, cut, ⟨tilt, rfl⟩, calm⟩
      exact ⟨earlier, tilt, later, cut, fun trial member => not_or.mp (calm trial member)⟩
    · rintro ⟨earlier, tilt, later, cut, calm⟩
      exact ⟨earlier, _, later, cut, ⟨tilt, rfl⟩,
        fun trial member => not_or.mpr (calm trial member)⟩
  · intro earlier trial later _ neutral
    rw [State.afterTrials_append]
    exact State.alarms_after_of_neutral _ neutral

/-- A device that was reset and then asked to move keeps the alarm through a refused question; the
calibration that was discarded behind the move does not silence it. -/
theorem alarm_history_of_discarded :
    let calls : List (Executor.Call Command) :=
      [.enqueue [.calibrate, .resetSoftware, .setTilt 10, .calibrate], .execute,
        .enqueue [.getTilt], .execute]
    Controller.trials {} calls =
        [⟨.calibrate, none⟩, ⟨.resetSoftware, none⟩,
          ⟨.setTilt 10, some (.notCalibrated Procedure.setTilt.name)⟩,
          ⟨.getTilt, some (.notCalibrated Procedure.getTilt.name)⟩] ∧
      .notCalibrated ∈ (Executor.afterAll ({} : Controller) calls).device.alarms := by
  intro calls
  have trials : Controller.trials {} calls =
      [⟨.calibrate, none⟩, ⟨.resetSoftware, none⟩,
        ⟨.setTilt 10, some (.notCalibrated Procedure.setTilt.name)⟩,
        ⟨.getTilt, some (.notCalibrated Procedure.getTilt.name)⟩] := by decide
  obtain ⟨_, _, _, _, active, _⟩ := alarm_history calls
  refine ⟨trials, active.mpr ⟨[⟨.calibrate, none⟩, ⟨.resetSoftware, none⟩], 10, _, trials, ?_⟩⟩
  exact List.forall_mem_singleton.mpr ⟨Command.noConfusion, Command.noConfusion⟩

end TiltMenu.Device
