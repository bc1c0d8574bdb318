import TiltMenu.Json.Writer
import TiltMenu.Log.Profile

/-!
# Log lines

An event as one line of a log: as a JSON object for machines, or in plain words for
developers. Fields keep their types in the JSON form. The profile says which events have a
line and of which form it is.
-/

set_option autoImplicit false

namespace TiltMenu.Log

/-- The JSON form of the value of a field. Time that no clock measured reads as zero. -/
def Datum.toJson : Datum → Json
  | .number value => .integer value
  | .flag value => .bool value
  | .text value => .string (some value)
  | .elapsed => .integer 0

namespace Event

/-- The event as a JSON object. -/
def toJson (event : Event) : Json :=
  .object
    [(some "level", .string (some event.level.name)),
      (some "fields",
        .object (event.fields.map fun field => (some field.1, field.2.toJson))),
      (some "target", .string (some event.origin))]

/-- The event on a line for machines. -/
def jsonLine (event : Event) : String := String.ofList event.toJson.write

/-- The event on a line for developers: its level, its origin and its fields. -/
def plainLine (event : Event) : String :=
  String.intercalate " "
    (event.level.name :: (event.origin ++ ":") ::
      event.fields.map fun field =>
        if field.1 = FieldName.message then field.2.toText
        else field.1 ++ "=" ++ field.2.toText)

end Event

namespace Profile

/-- The line of an event. Only production writes for machines. -/
def line : Profile → Event → String
  | .production, event => event.jsonLine
  | .development, event | .test, event => event.plainLine

/-- The lines of the events that the profile reports. -/
def lines (profile : Profile) (events : List Event) : List String :=
  (events.filter fun event => profile.reports event.level).map profile.line

theorem lines_append (profile : Profile) (front rest : List Event) :
    profile.lines (front ++ rest) = profile.lines front ++ profile.lines rest := by
  rw [lines, List.filter_append, List.map_append]
  rfl

example :
    let ended : Event := { Event.finished "menu" "run" (.number 2) with message := some "\"" }
    let step : Event := { level := .debug, origin := "menu", message := some "on the way" }
    production.lines [step, ended] =
        ["\x7b\"level\":\"INFO\",\"fields\":\x7b\"message\":\"\\\"\",\"component\":\"menu\","
          ++ "\"op\":\"run\",\"event\":\"end\",\"duration_ms\":2\x7d,\"target\":\"menu\"\x7d"] ∧
      development.lines [step] = ["DEBUG menu: on the way"] := by
  decide

end Profile

end TiltMenu.Log
