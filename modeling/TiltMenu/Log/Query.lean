import TiltMenu.Log.Event

/-!
# Queries over a log

A query names the values that some fields must have; a field that it does not
name may have any value or be absent.
-/

set_option autoImplicit false

namespace TiltMenu.Log

/-- What the events looked for have in common. -/
structure Query where
  level : Option Level := none
  operation : Option String := none
  stage : Option String := none
  menu : Option String := none
  command : Option String := none
  deriving DecidableEq, Repr

namespace Query

/-- A criterion that is not set admits everything, also an absent field. -/
private def admits {α : Type} [DecidableEq α] (wanted actual : Option α) : Bool :=
  wanted == none || wanted == actual

/-- The event meets every criterion that is set. -/
def accepts (query : Query) (event : Event) : Bool :=
  admits query.level (some event.level) && admits query.operation event.operation
    && admits query.stage event.stage && admits query.menu event.menu
    && admits query.command event.command

/-- The accepted events in the order of the log. -/
def find (query : Query) (log : List Event) : List Event := log.filter query.accepts

/-- The number of accepted events. -/
def count (query : Query) (log : List Event) : Nat := (query.find log).length

/-- The accepted event, if there is exactly one. -/
def single? (query : Query) (log : List Event) : Option Event :=
  match query.find log with
  | [event] => some event
  | _ => none

end Query

end TiltMenu.Log
