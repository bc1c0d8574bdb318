import TiltMenu.Json.Reader
import TiltMenu.Json.Writer
import TiltMenu.Store.Basic

/-!
# Stores as JSON

A store is written as an object with the single member `entries`, an object of
the parameters by key. Whether a value is an integer or a text is told by its JSON
type alone.

Reading also takes the two records, the store and the parameter, as arrays of
their fields in order, and an access as an object with the name of the access for
its only member. Of parameters with the same key the last one counts. Members of
other names are ignored.
-/

set_option autoImplicit false

namespace TiltMenu.Store

/-! ## Writing -/

/-- The name of an access in JSON. -/
def Access.jsonName : Access → String
  | .readWrite => "read_write"
  | .readOnly => "read_only"

/-- The JSON form of a value. -/
def Value.toJson : Value → Json
  | .int number => .integer number.toInt
  | .text content => .string (some content)

/-- The JSON form of a parameter. -/
def Parameter.toJson (parameter : Parameter) : Json :=
  .object
    [(some "value", parameter.value.toJson),
      (some "access", .string (some parameter.access.jsonName))]

/-- The parameters of a store by key. -/
def entriesJson (store : Store) : Json :=
  .object (store.entries.map fun entry => (some entry.1, entry.2.toJson))

/-- The JSON form of a store. -/
def toJson (store : Store) : Json := .object [(some "entries", store.entriesJson)]

/-- The parameters of a store as they are printed for reading. -/
def dump (store : Store) : String := String.ofList (store.entriesJson.writeIndented 0)

/-- The store as compact JSON text. -/
def serialize (store : Store) : String := String.ofList store.toJson.write

/-! ## Reading -/

/-- The access of a name. -/
def Access.ofJsonName? (name : String) : Option Access :=
  if name = Access.readWrite.jsonName then some .readWrite
  else if name = Access.readOnly.jsonName then some .readOnly
  else none

/-- Reads an access. -/
def Access.ofJson? : Json → Option Access
  | .string (some name) => Access.ofJsonName? name
  | .object [(some name, .null)] => Access.ofJsonName? name
  | _ => none

/-- Reads a value: a 64-bit integer or a text. -/
def Value.ofJson? : Json → Option Value
  | .integer number => (Text.int64OfInt? number).map .int
  | .string (some content) => some (.text content)
  | _ => none

/-- Reads the two fields of a parameter. -/
def Parameter.ofFields? (value access : Json) : Option Parameter := do
  let value ← Value.ofJson? value
  let access ← Access.ofJson? access
  return ⟨value, access⟩

/-- Reads a parameter. -/
def Parameter.ofJson? : Json → Option Parameter
  | .array [value, access] => Parameter.ofFields? value access
  | .object members => do
    let known ← Json.knownMembers? ["value", "access"] members
    Parameter.ofFields? (← known.lookup "value") (← known.lookup "access")
  | _ => none

/-- Reads a parameter with its key. -/
def entryOfMember? : Option String × Json → Option (String × Parameter)
  | (some key, value) => (Parameter.ofJson? value).map fun parameter => (key, parameter)
  | (none, _) => none

/-- Reads the parameters of a store. -/
def ofEntriesJson? : Json → Option Store
  | .object members => (members.mapM entryOfMember?).map ofList
  | _ => none

/-- Reads a store. -/
def ofJson? : Json → Option Store
  | .array [entries] => ofEntriesJson? entries
  | .object members => do
    let known ← Json.knownMembers? ["entries"] members
    ofEntriesJson? (← known.lookup "entries")
  | _ => none

/-- Reads a store from JSON text. -/
def deserialize? (text : String) : Option Store := do
  ofJson? (← Json.parse? text.toList)

end TiltMenu.Store
