import TiltMenu.Fault.Report

/-!
# Log events

An operation of the menu does not write to a log; it returns the events it
wants logged, in order. An event has a level, the origin that wrote it and
named fields. The fields that readers of the log ask for by name (component,
operation, stage, menu, command and message) have a place of their own, all
others are details.

An operation that can fail is bracketed by two events: it has `started`, and
then it has `finished` or `failed`.
-/

set_option autoImplicit false

namespace TiltMenu.Log

/-- How much an event matters. -/
inductive Level where
  | error
  | warn
  | info
  | debug
  | trace
  deriving DecidableEq, Repr

namespace Level

/-- Every level, the weightiest first. -/
def all : List Level := [.error, .warn, .info, .debug, .trace]

/-- The name of the level in the log. -/
def name : Level → String
  | .error => "ERROR"
  | .warn => "WARN"
  | .info => "INFO"
  | .debug => "DEBUG"
  | .trace => "TRACE"

/-- The level of a name. -/
def ofName? (name : String) : Option Level := all.find? (·.name == name)

end Level

/-- The value of a field. -/
inductive Datum where
  | number (value : Int)
  | flag (value : Bool)
  | text (value : String)
  /-- Time that passed. Only a clock knows it, so it has no value here. -/
  | elapsed
  deriving DecidableEq, Repr

/-- The value as plain text. Time that no clock measured reads as zero. -/
def Datum.toText : Datum → String
  | .number value => value.repr
  | .flag value => if value then "true" else "false"
  | .text value => value
  | .elapsed => "0"

/-! ## Names of fields and stages -/

namespace FieldName

def component : String := "component"
def operation : String := "op"
def stage : String := "event"
def message : String := "message"
def duration : String := "duration_ms"
def menu : String := "menu"
def command : String := "command"
def succeeded : String := "succeeded"
def units : String := "units"
def errorKind : String := "err.kind"
def errorCode : String := "err.code"

/-- The names of fields that readers may rely on. -/
def all : List String :=
  [component, operation, stage, message, duration, menu, command, succeeded, units, errorKind,
    errorCode]

end FieldName

namespace Stage

def start : String := "start"
def finish : String := "end"
def failure : String := "end_error"
def emptyInput : String := "empty_input"
def accepted : String := "accepted"
def rejected : String := "rejected"
def help : String := "help"
def exit : String := "exit"
def unknown : String := "unknown"

/-- The stages that readers may rely on. -/
def all : List String :=
  [start, finish, failure, emptyInput, accepted, rejected, help, exit, unknown]

end Stage

/-! ## Events -/

/-- One entry of the log. -/
structure Event where
  level : Level
  /-- The part of the program that wrote the event. -/
  origin : String
  component : Option String := none
  operation : Option String := none
  /-- What happened in the life of the operation. -/
  stage : Option String := none
  menu : Option String := none
  command : Option String := none
  message : Option String := none
  details : List (String × Datum) := []
  deriving DecidableEq, Repr

namespace Event

/-- A field of its own, if the event has it. -/
private def named (name : String) (value : Option String) : List (String × Datum) :=
  value.toList.map fun text => (name, .text text)

/-- Every field of the event by name. -/
def fields (event : Event) : List (String × Datum) :=
  named FieldName.message event.message ++ named FieldName.component event.component
    ++ named FieldName.operation event.operation ++ named FieldName.stage event.stage
    ++ named FieldName.menu event.menu ++ named FieldName.command event.command ++ event.details

/-- The value of a detail. -/
def detail? (event : Event) (name : String) : Option Datum := event.details.lookup name

/-- The event shows something on the way. It belongs to no operation and names no fault. -/
structure IsNotice (event : Event) : Prop where
  level : event.level = .info
  operation : event.operation = none
  stage : event.stage = none
  blameless : event.detail? FieldName.errorCode = none

/-- An operation has begun. The component is the origin. -/
def started (origin operation : String) : Event where
  level := .info
  origin := origin
  component := some origin
  operation := some operation
  stage := some Stage.start

/-- An operation has ended well. -/
def finished (origin operation : String) (duration : Datum) : Event where
  level := .info
  origin := origin
  component := some origin
  operation := some operation
  stage := some Stage.finish
  details := [(FieldName.duration, duration)]

/-- An operation has ended with a fault. The message is the text of the report. -/
def failed (origin operation : String) (duration : Datum) (report : Report) : Event where
  level := .error
  origin := origin
  component := some origin
  operation := some operation
  stage := some Stage.failure
  message := some report.text
  details :=
    [(FieldName.duration, duration), (FieldName.errorKind, .text report.kind.name),
      (FieldName.errorCode, .text report.code)]

end Event

end TiltMenu.Log
