import TiltMenu.Device.Controller
import TiltMenu.Proofs.Log.Bracket

/-!
# Executing one command

A controller with nothing queued that is given one command and told to execute runs exactly
that command (`execute_enqueue`). Either the device refuses it, and only the device may have
changed, or it is put at the end of the history. The queue is empty again in both cases.

The tilt of the device changes only by a move that is not refused
(`State.tilt_after`).

An execution is bracketed by the events of its operation, however many commands wait and
however far the queue is run (`brackets_execute`).
-/

set_option autoImplicit false

namespace TiltMenu.Device

open Log (Event)

namespace State

/-- An alarm does not move the device. -/
@[simp]
theorem tilt_raise (device : State) (alarm : Alarm) : (device.raise alarm).tilt = device.tilt := by
  unfold raise
  split <;> rfl

/-- The device refuses a command for one reason only. -/
theorem refusal?_eq_some_iff (device : State) (command : Command) (fault : Fault) :
    device.refusal? command = some fault ↔
      device.calibrated = false ∧ (command.procedure = .setTilt ∨ command.procedure = .getTilt) ∧
        fault = .notCalibrated command.name := by
  unfold refusal?
  cases command <;> simp [Command.procedure, @eq_comm _ fault]

/-- A move is not refused exactly when the device is calibrated. -/
theorem refusal?_setTilt (device : State) (tilt : Int64) :
    device.refusal? (.setTilt tilt) = none ↔ device.calibrated = true := by
  unfold refusal?
  cases device.calibrated <;> simp

/-- A move that is not refused takes the device to its tilt. -/
theorem tilt_after_setTilt {device : State} (calibrated : device.calibrated = true)
    (tilt : Int64) : (device.after (.setTilt tilt)).tilt = some tilt := by
  simp [after, calibrated]

/-- **The device is at a tilt because it was there before or has just moved there.** -/
theorem tilt_after {device : State} {command : Command} {tilt : Int64}
    (at_tilt : (device.after command).tilt = some tilt) :
    device.tilt = some tilt ∨ device.calibrated = true ∧ command = .setTilt tilt := by
  cases command with
  | setTilt target =>
    cases calibrated : device.calibrated with
    | true =>
      rw [tilt_after_setTilt calibrated, Option.some.injEq] at at_tilt
      exact .inr ⟨rfl, by rw [at_tilt]⟩
    | false =>
      refine .inl ?_
      simpa [after, calibrated] using at_tilt
  | getTilt => exact .inl at_tilt
  | calibrate => exact .inl at_tilt
  | getAlarmStatus => exact .inl at_tilt
  | clearActiveAlarms => exact .inl at_tilt
  | resetSoftware => simp [after] at at_tilt
  | getInformation => exact .inl at_tilt

end State

namespace Controller

/-- The event with which the execution of so many commands begins. -/
def executionStarted (count : Nat) : Event :=
  { Event.started State.origin operation with details := [("pending", .number count)] }

/-- What comes of a controller that runs one command and has nothing else to run. -/
inductive Runs (controller : Controller) (command : Command) : Outcome Controller → Prop where
  | refused {fault : Fault} (refusal : controller.device.refusal? command = some fault) :
      Runs controller command
        ⟨false, { controller with device := controller.device.after command },
          [executionStarted 1, Event.failed State.origin operation .elapsed fault.report]⟩
  | granted (refusal : controller.device.refusal? command = none) :
      Runs controller command
        ⟨true, controller.record command,
          executionStarted 1 :: controller.device.report controller.executed.length command
            ++ [Event.finished State.origin operation .elapsed]⟩

/-- **One command that is queued on an empty queue is run, and nothing else is.** -/
theorem execute_enqueue {controller : Controller} (idle : controller.pending = [])
    (command : Command) :
    Runs controller command (controller.enqueue [command]).execute := by
  obtain ⟨pending, executed, device⟩ := controller
  cases idle
  cases refusal : device.refusal? command with
  | some fault =>
    have run : Runs ⟨[], executed, device⟩ command _ := .refused refusal
    simpa [execute, enqueue, runQueue, refusal, executionStarted] using run
  | none =>
    have run : Runs ⟨[], executed, device⟩ command _ := .granted refusal
    simpa [execute, enqueue, runQueue, refusal, executionStarted] using run

/-- Running one command on an empty queue fails exactly if the device is not calibrated and
the command moves it or asks for its tilt. -/
theorem execute_enqueue_failed_iff {controller : Controller} (idle : controller.pending = [])
    (command : Command) :
    (controller.enqueue [command]).execute.succeeded = false ↔
      controller.device.calibrated = false ∧
        (command.procedure = .setTilt ∨ command.procedure = .getTilt) := by
  have runs := execute_enqueue idle command
  generalize (controller.enqueue [command]).execute = outcome at runs ⊢
  cases runs with
  | refused refusal =>
    obtain ⟨uncalibrated, moves, _⟩ := (State.refusal?_eq_some_iff _ _ _).mp refusal
    exact iff_of_true rfl ⟨uncalibrated, moves⟩
  | granted refusal =>
    refine iff_of_false (fun same => Bool.noConfusion same) ?_
    rintro ⟨uncalibrated, moves⟩
    have refused := (State.refusal?_eq_some_iff _ _ _).mpr ⟨uncalibrated, moves, rfl⟩
    rw [refusal] at refused
    cases refused

/-! ## Events of executions -/

/-- A queue shows notices while it runs. -/
theorem isNotice_of_mem_runQueue {controller : Controller} {commands : List Command}
    {event : Event} (member : event ∈ (controller.runQueue commands).events) :
    event.IsNotice := by
  induction commands generalizing controller with
  | nil => cases member
  | cons command rest ih =>
    cases refusal : controller.device.refusal? command with
    | some fault =>
      simp only [runQueue, refusal] at member
      cases member
    | none =>
      simp only [runQueue, refusal] at member
      rcases List.mem_append.mp member with reported | later
      · exact State.isNotice_of_mem_report reported
      · exact ih later

/-- **An execution is bracketed**, also that of an empty queue and of one that is discarded
on the way. -/
theorem brackets_execute (controller : Controller) :
    controller.execute.Brackets operation := by
  unfold execute
  split
  · exact ⟨_, [], _, rfl, ⟨rfl, rfl, rfl⟩, List.forall_mem_nil _, ⟨rfl, rfl, rfl⟩⟩
  · dsimp only
    split
    · exact ⟨_, _, _, rfl, ⟨rfl, rfl, rfl⟩, fun _ => isNotice_of_mem_runQueue, ⟨rfl, rfl, rfl⟩⟩
    · exact ⟨_, _, _, rfl, ⟨rfl, rfl, rfl⟩, fun _ => isNotice_of_mem_runQueue, ⟨rfl, rfl, rfl⟩⟩

/-- The event tells of no execution with an empty queue: it starts an execution only with
one command waiting, and it reports no empty queue. -/
structure OfFilledQueue (event : Event) : Prop where
  waiting : event.operation = some operation → event.stage = some Log.Stage.start →
    event.detail? "pending" = some (.number 1)
  code : event.detail? Log.FieldName.errorCode ≠ some (.text FaultKind.emptyQueue.code)

/-- Events of other operations that name no fault are of this kind. -/
theorem ofFilledQueue_of_other {event : Event} (other : event.operation ≠ some operation)
    (absent : event.detail? Log.FieldName.errorCode = none) : OfFilledQueue event where
  waiting := fun same => absurd same other
  code := by
    rw [absent]
    intro same
    cases same

/-- A failure is of this kind unless the fault is an empty queue. -/
theorem ofFilledQueue_failed {origin operation : String} {duration : Log.Datum} {report : Report}
    (filled : report.kind ≠ .emptyQueue) :
    OfFilledQueue (Event.failed origin operation duration report) where
  waiting := by
    intro _ same
    simp [Event.failed, Log.Stage.failure, Log.Stage.start] at same
  code := by
    intro same
    have reported : some (Log.Datum.text report.code) = some (.text FaultKind.emptyQueue.code) :=
      same
    rw [Option.some.injEq, Log.Datum.text.injEq] at reported
    exact filled (FaultKind.code_injective reported)

/-- Running one command on an empty queue starts with that command and reports no empty
queue. -/
theorem ofFilledQueue_of_runs {controller : Controller} {command : Command}
    {outcome : Outcome Controller} (runs : Runs controller command outcome) {event : Event}
    (member : event ∈ outcome.events) : OfFilledQueue event := by
  have started : OfFilledQueue (executionStarted 1) := ⟨fun _ _ => rfl, by decide⟩
  cases runs with
  | refused refusal =>
    obtain ⟨_, _, rfl⟩ := (State.refusal?_eq_some_iff _ _ _).mp refusal
    simp only [List.mem_cons, List.not_mem_nil, or_false] at member
    rcases member with rfl | rfl
    · exact started
    · exact ofFilledQueue_failed (by simp [Fault.report, Fault.kind])
  | granted refusal =>
    rcases List.mem_cons.mp member with rfl | later
    · exact started
    · rcases List.mem_append.mp later with reported | last
      · have notice := State.isNotice_of_mem_report reported
        exact ofFilledQueue_of_other (by simp [notice.operation]) notice.blameless
      · rw [List.mem_singleton.mp last]
        exact ⟨fun _ same => by simp [Event.finished, Log.Stage.finish, Log.Stage.start] at same,
          by decide⟩

end Controller

end TiltMenu.Device
