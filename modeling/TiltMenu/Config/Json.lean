import TiltMenu.Config.Basic
import TiltMenu.Json.Reader

/-!
# Configurations as JSON

A configuration is read from an object of its fields, or from an array of them in
order. Fields that are absent have their default. The result is not validated.
-/

set_option autoImplicit false

namespace TiltMenu.Config

/-- Reads a schema version: an integer of 32 bits without sign. -/
def versionOfJson? : Json → Option UInt32
  | .integer number =>
    if 0 ≤ number ∧ number < UInt32.size then some (UInt32.ofNat number.toNat) else none
  | _ => none

/-- Reads a text. -/
def textOfJson? : Json → Option String
  | .string content => content
  | _ => none

/-- Reads a list whose items are read by `item?`. -/
def listOfJson? {α : Type} (item? : Json → Option α) : Json → Option (List α)
  | .array items => items.mapM item?
  | _ => none

/-- Reads a field that may be absent. -/
def fieldOfJson? {α : Type} (value? : Json → Option α) (absent : α) : Option Json → Option α
  | none => some absent
  | some json => value? json

/-- Reads the fields of a configuration, each of which may be absent. -/
def ofFields? (field : String → Option Json) : Option Config := do
  let version ← fieldOfJson? versionOfJson? defaults.schemaVersion (field "schema_version")
  let store ←
    fieldOfJson? (listOfJson? textOfJson?) defaults.storeCommands (field "database_commands")
  let device ←
    fieldOfJson? (listOfJson? textOfJson?) defaults.deviceCommands (field "controller_commands")
  let predefined ←
    fieldOfJson? (listOfJson? (listOfJson? textOfJson?)) defaults.predefined
      (field "predefined_commands")
  return ⟨version, store, device, predefined⟩

/-- Reads a configuration. -/
def ofJson? : Json → Option Config
  | .array items =>
    if items.length ≤ fieldNames.length then
      ofFields? fun name => (fieldNames.zip items).lookup name
    else none
  | .object members => do
    let known ← Json.knownMembers? fieldNames members
    ofFields? fun name => known.lookup name
  | _ => none

/-- Reads a configuration from JSON text. -/
def deserialize? (text : String) : Option Config := do
  ofJson? (← Json.parse? text.toList)

end TiltMenu.Config
