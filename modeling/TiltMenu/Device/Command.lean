import TiltMenu.CommandLine.Words
import TiltMenu.Store.Basic

/-!
# Commands of the device

The procedures that the device understands, and the reading of a command line as
one of them with its argument. A tilt is accepted if it lies in the tilt window
of the store and on one of its steps, counted from the lower end.
-/

set_option autoImplicit false

namespace TiltMenu.Device

/-! ## Procedures -/

/-- What the device can be told to do. -/
inductive Procedure where
  | setTilt
  | getTilt
  | calibrate
  | getAlarmStatus
  | clearActiveAlarms
  | resetSoftware
  | getInformation
  deriving DecidableEq, Repr

namespace Procedure

/-- Every procedure, in the order of the documentation. -/
def all : List Procedure :=
  [.setTilt, .getTilt, .calibrate, .getAlarmStatus, .clearActiveAlarms, .resetSoftware,
    .getInformation]

/-- The name by which the procedure is called. -/
def name : Procedure → String
  | .setTilt => "SetTilt"
  | .getTilt => "GetTilt"
  | .calibrate => "Calibrate"
  | .getAlarmStatus => "GetAlarmStatus"
  | .clearActiveAlarms => "ClearActiveAlarms"
  | .resetSoftware => "ResetSoftware"
  | .getInformation => "GetInformation"

/-- The procedure of a name. -/
def ofName? (name : String) : Option Procedure := all.find? (·.name == name)

end Procedure

/-- A procedure with its argument. -/
inductive Command where
  /-- Move to an absolute tilt, in tenths of a degree. -/
  | setTilt (tilt : Int64)
  | getTilt
  | calibrate
  | getAlarmStatus
  | clearActiveAlarms
  | resetSoftware
  | getInformation
  deriving DecidableEq, Repr

namespace Command

/-- The procedure that the command calls. -/
def procedure : Command → Procedure
  | .setTilt _ => .setTilt
  | .getTilt => .getTilt
  | .calibrate => .calibrate
  | .getAlarmStatus => .getAlarmStatus
  | .clearActiveAlarms => .clearActiveAlarms
  | .resetSoftware => .resetSoftware
  | .getInformation => .getInformation

/-- The name of the procedure that the command calls. -/
def name (command : Command) : String := command.procedure.name

/-- The command as it is written on a command line. -/
def display : Command → String
  | .setTilt tilt => Procedure.setTilt.name ++ " " ++ Text.writeInt64 tilt
  | command => command.name

end Command

/-! ## The tilt window -/

/-- The tilts that the device may be moved to. -/
structure Window where
  min : Int64
  max : Int64
  step : Int64
  deriving DecidableEq, Repr

namespace Window

/-- The tilt window of a store. -/
def ofStore (store : Store) : Except Fault Window := do
  let min ← store.int Store.Key.minTilt
  let max ← store.int Store.Key.maxTilt
  let step ← store.int Store.Key.tiltStep
  return ⟨min, max, step⟩

/-- The distance of a tilt from the lower end, if it is a 64-bit integer. -/
def offset? (window : Window) (tilt : Int64) : Option Int64 :=
  Text.int64OfInt? (tilt.toInt - window.min.toInt)

/-- The tilt is a whole number of steps above the lower end. -/
def onStep (window : Window) (tilt : Int64) : Bool :=
  0 < window.step && (window.offset? tilt).any fun offset => window.step.toInt ∣ offset.toInt

/-- The tilt lies in the window and on one of its steps. -/
def admits (window : Window) (tilt : Int64) : Bool :=
  window.min ≤ tilt && tilt ≤ window.max && window.onStep tilt

/-- The fault of a tilt that the window does not admit. -/
def refuse (window : Window) (tilt : Int64) : Fault :=
  .tiltOutOfRange tilt window.min window.max window.step

end Window

/-! ## Reading command lines -/

namespace Command

/-- Checks a tilt against the tilt window of a store. -/
def checkTilt (store : Store) (tilt : Int64) : Except Fault Command :=
  match Window.ofStore store with
  | .error fault => .error fault
  | .ok window => if window.admits tilt then .ok (.setTilt tilt) else .error (window.refuse tilt)

/-- Reads the argument of a move. -/
def ofTilt (store : Store) (raw : String) : Except Fault Command :=
  match Text.readInt64 raw.toList with
  | .error fault => .error (.invalidValue "tilt" raw fault.message)
  | .ok tilt => checkTilt store tilt

/-- Reads a procedure that takes no argument. -/
def withoutArguments (command : Command) (arguments : List String) : Except Fault Command :=
  if arguments.isEmpty then .ok command
  else .error (.wrongArity command.name 0 arguments.length)

/-- Reads the arguments of a procedure. -/
def ofArguments (store : Store) (procedure : Procedure) (arguments : List String) :
    Except Fault Command :=
  match procedure with
  | .setTilt =>
    match arguments with
    | [raw] => ofTilt store raw
    | _ => .error (.wrongArity Procedure.setTilt.name 1 arguments.length)
  | .getTilt => withoutArguments .getTilt arguments
  | .calibrate => withoutArguments .calibrate arguments
  | .getAlarmStatus => withoutArguments .getAlarmStatus arguments
  | .clearActiveAlarms => withoutArguments .clearActiveAlarms arguments
  | .resetSoftware => withoutArguments .resetSoftware arguments
  | .getInformation => withoutArguments .getInformation arguments

/-- Reads a command line as a command of the device. -/
def parse (store : Store) (commandLine : CommandLine) : Except Fault Command :=
  match commandLine with
  | [] => .error .emptyInput
  | name :: arguments =>
    match Procedure.ofName? name with
    | none => .error (.unsupportedCommand name)
    | some procedure => ofArguments store procedure arguments

end Command

end TiltMenu.Device
