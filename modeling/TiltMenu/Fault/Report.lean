import TiltMenu.Fault

/-!
# Fault reports

For the log a fault is classified: it gets a kind with a code that does not
change, and says which operation, command or key it concerns where that is
known. `Fault.report` is the classification; `Report.text` is what the log
shows.
-/

set_option autoImplicit false

namespace TiltMenu

/-- The classes of faults. -/
inductive FaultKind where
  | invalidInput
  | notFound
  | readOnly
  | typeMismatch
  | outOfRange
  | notCalibrated
  | emptyQueue
  | invalidConfig
  | io
  | serialization
  deriving DecidableEq, Repr

namespace FaultKind

/-- Every kind, in the order of the definition. -/
def all : List FaultKind :=
  [.invalidInput, .notFound, .readOnly, .typeMismatch, .outOfRange, .notCalibrated, .emptyQueue,
    .invalidConfig, .io, .serialization]

/-- The name of the kind in the log. -/
def name : FaultKind → String
  | .invalidInput => "InvalidInput"
  | .notFound => "NotFound"
  | .readOnly => "ReadOnly"
  | .typeMismatch => "TypeMismatch"
  | .outOfRange => "OutOfRange"
  | .notCalibrated => "NotCalibrated"
  | .emptyQueue => "EmptyQueue"
  | .invalidConfig => "InvalidConfig"
  | .io => "Io"
  | .serialization => "Serialization"

/-- The code of the kind, stable across versions. -/
def code : FaultKind → String
  | .invalidInput => "ERR_INVALID_INPUT"
  | .notFound => "ERR_NOT_FOUND"
  | .readOnly => "ERR_READ_ONLY"
  | .typeMismatch => "ERR_TYPE_MISMATCH"
  | .outOfRange => "ERR_OUT_OF_RANGE"
  | .notCalibrated => "ERR_NOT_CALIBRATED"
  | .emptyQueue => "ERR_EMPTY_QUEUE"
  | .invalidConfig => "ERR_INVALID_CONFIG"
  | .io => "ERR_IO"
  | .serialization => "ERR_SERIALIZATION"

/-- The kind of a name. -/
def ofName? (name : String) : Option FaultKind := all.find? (·.name == name)

/-- Two kinds with one code are the same kind. -/
theorem code_injective {left right : FaultKind} (same : left.code = right.code) :
    left = right := by
  cases left <;> cases right <;> simp_all [code]

end FaultKind

/-- A classified fault with what it concerns. -/
structure Report where
  kind : FaultKind
  operation : Option String := none
  command : Option String := none
  key : Option String := none
  message : String := ""
  deriving DecidableEq, Repr

namespace Report

/-- The code of the report's kind. -/
def code (report : Report) : String := report.kind.code

/-- The code, then each part that is known. -/
def text (report : Report) : String :=
  "[" ++ report.code ++ "]"
    ++ (report.operation.elim "" fun operation => " in operation '" ++ operation ++ "'")
    ++ (if report.message = "" then "" else ": " ++ report.message)
    ++ (report.command.elim "" fun command => " (command: " ++ command ++ ")")
    ++ (report.key.elim "" fun key => " (key: " ++ key ++ ")")

end Report

/-- The classification of a fault. -/
def Fault.kind : Fault → FaultKind
  | .emptyInput | .wrongArity .. | .unsupportedCommand _ => .invalidInput
  | .keyNotFound _ => .notFound
  | .readOnlyKey _ => .readOnly
  | .invalidValue .. => .typeMismatch
  | .tiltOutOfRange .. => .outOfRange
  | .notCalibrated _ => .notCalibrated
  | .emptyQueue => .emptyQueue
  | .invalidConfig _ => .invalidConfig
  | .io .. => .io
  | .serialization _ => .serialization

/-- The operation that a fault of this cause always belongs to. -/
def Fault.operation? : Fault → Option String
  | .emptyQueue => some "execute_command"
  | .invalidConfig _ => some "load_config"
  | .io operation _ => some operation
  | .serialization _ => some "to_json"
  | _ => none

/-- The command that the fault concerns. -/
def Fault.command? : Fault → Option String
  | .wrongArity command _ _ | .unsupportedCommand command | .notCalibrated command => some command
  | .tiltOutOfRange .. => some "SetTilt"
  | _ => none

/-- The key that the fault concerns. -/
def Fault.key? : Fault → Option String
  | .keyNotFound key | .readOnlyKey key | .invalidValue key _ _ => some key
  | _ => none

/-- The report of a fault. -/
def Fault.report (fault : Fault) : Report where
  kind := fault.kind
  operation := fault.operation?
  command := fault.command?
  key := fault.key?
  message := fault.message

end TiltMenu
