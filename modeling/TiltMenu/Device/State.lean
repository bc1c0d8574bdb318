import TiltMenu.Device.Command
import TiltMenu.Log.Event

/-!
# The state of the device

The simulated device has to be calibrated before it moves or tells its tilt. A
command has three aspects: whether the device refuses it (`refusal?`), the state
that the device is in afterwards (`after`), and what it reports (`report`). A
refused move raises an alarm; any other refused command changes nothing.
-/

set_option autoImplicit false

namespace TiltMenu.Device

open Log (Event)

/-- The alarms of the device. -/
inductive Alarm where
  /-- A movement was requested before calibration. -/
  | notCalibrated
  deriving DecidableEq, Repr

/-- The name of the alarm. -/
def Alarm.name : Alarm → String
  | .notCalibrated => "NotCalibrated"

/-- The state of the device. -/
structure State where
  calibrated : Bool := false
  /-- The last tilt moved to, in tenths of a degree. -/
  tilt : Option Int64 := none
  /-- The active alarms, the oldest first. -/
  alarms : List Alarm := []
  /-- How often the software was reset. -/
  resets : UInt32 := 0
  deriving DecidableEq, Repr

namespace State

/-- Makes an alarm active unless it is so already. -/
def raise (device : State) (alarm : Alarm) : State :=
  if alarm ∈ device.alarms then device else { device with alarms := device.alarms ++ [alarm] }

/-- The fault with which the device refuses a command. -/
def refusal? (device : State) (command : Command) : Option Fault :=
  match command with
  | .setTilt _ | .getTilt =>
    if device.calibrated then none else some (.notCalibrated command.name)
  | _ => none

/-- The device after a command, which it may have refused. -/
def after (device : State) : Command → State
  | .setTilt tilt =>
    if device.calibrated then { device with tilt := some tilt } else device.raise .notCalibrated
  | .calibrate =>
    { device with
      calibrated := true
      alarms := device.alarms.filter (· != .notCalibrated) }
  | .clearActiveAlarms => { device with alarms := [] }
  | .resetSoftware =>
    { device with calibrated := false, tilt := none, resets := device.resets + 1 }
  | .getTilt | .getAlarmStatus | .getInformation => device

/-- The origin of the events of the device. -/
def origin : String := "almag_core::controller::almag"

/-- An event of the device with a message and details. -/
private def notice (message : String) (details : List (String × Log.Datum)) : Event where
  level := .info
  origin := origin
  message := some message
  details := details

/-- What the device reports about a command that it does not refuse, when it has
executed some number of commands before. -/
def report (device : State) (executed : Nat) : Command → List Event
  | .setTilt tilt =>
    [notice ("Tilt set to " ++ Text.writeInt64 tilt) [("tilt", .number tilt.toInt)]]
  | .getTilt =>
    match device.tilt with
    | some tilt =>
      [notice ("Current tilt " ++ Text.writeInt64 tilt) [("tilt", .number tilt.toInt)]]
    | none => [notice "Tilt not set" []]
  | .calibrate => [notice "Calibration complete" []]
  | .getAlarmStatus =>
    if device.alarms.isEmpty then [notice "No active alarms" []]
    else device.alarms.map fun alarm =>
      notice ("Active alarm " ++ alarm.name) [("alarm", .text alarm.name)]
  | .clearActiveAlarms => [notice "Alarms cleared" []]
  | .resetSoftware =>
    [notice "Software reset" [("resets", .number (device.resets + 1).toNat)]]
  | .getInformation =>
    [notice "Device information"
      [("calibrated", .flag device.calibrated), ("resets", .number device.resets.toNat),
        ("executed", .number executed)]]

/-- The device reports notices. -/
theorem isNotice_of_mem_report {device : State} {executed : Nat} {command : Command}
    {event : Event} (member : event ∈ device.report executed command) : event.IsNotice := by
  have shown : ∀ (message : String) (details : List (String × Log.Datum)),
      details.lookup Log.FieldName.errorCode = none → event ∈ [notice message details] →
      event.IsNotice := by
    intro message details absent reported
    rw [List.mem_singleton.mp reported]
    exact ⟨rfl, rfl, rfl, absent⟩
  cases command with
  | setTilt tilt => exact shown _ _ rfl member
  | getTilt =>
    simp only [report] at member
    split at member
    · exact shown _ _ rfl member
    · exact shown _ _ rfl member
  | calibrate => exact shown _ _ rfl member
  | getAlarmStatus =>
    simp only [report] at member
    split at member
    · exact shown _ _ rfl member
    · obtain ⟨alarm, _, rfl⟩ := List.mem_map.mp member
      exact shown _ _ rfl (List.mem_singleton_self _)
  | clearActiveAlarms => exact shown _ _ rfl member
  | resetSoftware => exact shown _ _ rfl member
  | getInformation => exact shown _ _ rfl member

end State

end TiltMenu.Device
