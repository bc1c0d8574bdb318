/-!
# Faults

The causes for which an operation of the menu fails, and their wording.
-/

set_option autoImplicit false

namespace TiltMenu

/-- Why an operation failed. -/
inductive Fault where
  /-- The command line had no words. -/
  | emptyInput
  /-- The command takes another number of arguments. -/
  | wrongArity (command : String) (expected actual : Nat)
  /-- No command of the family has this name. -/
  | unsupportedCommand (command : String)
  /-- The store has no such key. -/
  | keyNotFound (key : String)
  /-- The key exists and may not be written. -/
  | readOnlyKey (key : String)
  /-- The value does not fit the key. -/
  | invalidValue (key value reason : String)
  /-- The tilt lies outside the window or between two steps. -/
  | tiltOutOfRange (tilt min max step : Int64)
  /-- The device was asked to move, or for its tilt, before calibration. -/
  | notCalibrated (command : String)
  /-- The controller was asked to execute with nothing queued. -/
  | emptyQueue
  /-- The configuration is malformed or not supported. -/
  | invalidConfig (reason : String)
  /-- Reading a file failed. -/
  | io (operation reason : String)
  /-- A value could not be written as text. -/
  | serialization (reason : String)
  deriving DecidableEq, Repr

/-- The fault in words. -/
def Fault.message : Fault → String
  | .emptyInput => "Empty user input"
  | .wrongArity command expected actual =>
    "Command " ++ command ++ " expects " ++ toString expected ++ " argument(s), got "
      ++ toString actual
  | .unsupportedCommand command => "Unsupported command: " ++ command
  | .keyNotFound key => "Database key not found: " ++ key
  | .readOnlyKey key => "Database key is read-only: " ++ key
  | .invalidValue key value reason =>
    "Invalid value for " ++ key ++ ": " ++ value ++ " (" ++ reason ++ ")"
  | .tiltOutOfRange tilt min max step =>
    "Tilt " ++ tilt.toInt.repr ++ " out of range [" ++ min.toInt.repr ++ ", " ++ max.toInt.repr
      ++ "] with step " ++ step.toInt.repr
  | .notCalibrated command => "Device not calibrated: " ++ command
  | .emptyQueue => "Controller has no pending commands"
  | .invalidConfig reason => "Invalid configuration: " ++ reason
  | .io operation reason => "I/O error during " ++ operation ++ ": " ++ reason
  | .serialization reason => "Serialization failed: " ++ reason

end TiltMenu
