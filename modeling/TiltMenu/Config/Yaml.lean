import TiltMenu.Config.Basic
import TiltMenu.Input.File
import TiltMenu.Yaml.Node

/-!
# Configurations as YAML

A configuration is a mapping of its fields; an empty document is the empty mapping.
Fields that are absent have their default, keys of other names are ignored, and a field
must not be repeated. Where a text is wanted any scalar will do, and an empty value is an
empty list.

Aliases are followed where a value is wanted, but not endlessly: at most a hundred times
the size of the document.
-/

set_option autoImplicit false

namespace TiltMenu.Config

open Yaml (Node Document)

/-! ## Numbers -/

/-- The value of at least one digit in a base, if it is less than 2 to the 64. -/
def readNatural? (base : Nat) (digits : List Char) : Option Nat :=
  if digits.isEmpty then none else (Text.readBase? base 0 digits).filter (· < UInt64.size)

/-- A number without sign, perhaps behind a plus: decimal, or with the mark of another
base. A decimal number of several digits does not start with zero. -/
def readUnsigned? (text : List Char) : Option Nat :=
  match (if text.head? = some '+' then text.tail else text) with
  | '0' :: 'x' :: digits => readNatural? 16 digits
  | '0' :: 'o' :: digits => readNatural? 8 digits
  | '0' :: 'b' :: digits => readNatural? 2 digits
  | '0' :: _ :: _ => none
  | digits => readNatural? 10 digits

/-! ## Reading nodes -/

/-- Reading with a number of aliases that may still be followed. -/
abbrev NodeReader := StateT Nat Option

namespace NodeReader

/-- The node itself, or the node that it is an alias of. -/
def follow (document : Document) (node : Node) : NodeReader Node := do
  match node with
  | .alias anchor =>
    match ← get with
    | 0 => failure
    | left + 1 =>
      set left
      match document.target? anchor with
      | some target => return target
      | none => failure
  | _ => return node

/-- Reads a text: any scalar. -/
def text (document : Document) (node : Node) : NodeReader String := do
  match ← follow document node with
  | .scalar text _ _ => return text
  | _ => failure

/-- Reads a list whose items are read by `item`. -/
def list {α : Type} (document : Document) (item : Node → NodeReader α) (node : Node) :
    NodeReader (List α) := do
  match ← follow document node with
  | .sequence items => items.mapM item
  | .scalar "" .plain _ => return []
  | _ => failure

/-- The tag of integers. -/
def integerTag : List UInt8 := Text.encode "tag:yaml.org,2002:int"

/-- The text of a scalar where a number is wanted: a plain scalar, or a literal block that
is tagged as an integer. -/
def numeral? : Node → Option String
  | .scalar text .plain _ => some text
  | .scalar text .literal (some tag) => if tag = integerTag then some text else none
  | _ => none

/-- Reads a schema version: a number of 32 bits without sign. -/
def version (document : Document) (node : Node) : NodeReader UInt32 := do
  let text ← numeral? (← follow document node)
  let number ← readUnsigned? text.toList
  if number < UInt32.size then return UInt32.ofNat number else failure

/-- The fields of a configuration that were read so far. -/
structure Fields where
  version : Option UInt32 := none
  store : Option (List String) := none
  device : Option (List String) := none
  predefined : Option (List CommandLine) := none

/-- The configuration of some fields. -/
def Fields.config (fields : Fields) : Config where
  schemaVersion := fields.version.getD defaults.schemaVersion
  storeCommands := fields.store.getD defaults.storeCommands
  deviceCommands := fields.device.getD defaults.deviceCommands
  predefined := fields.predefined.getD defaults.predefined

/-- Reads the value of a field that was not read before. -/
def fresh {α : Type} (held : Option α) (value : NodeReader α) : NodeReader α :=
  if held.isSome then failure else value

/-- Reads one pair of a configuration. -/
def field (document : Document) (fields : Fields) (pair : Node × Node) :
    NodeReader Fields := do
  let name ← text document pair.1
  let names := list document (text document)
  if name = "schema_version" then
    return { fields with version := ← fresh fields.version (version document pair.2) }
  else if name = "database_commands" then
    return { fields with store := ← fresh fields.store (names pair.2) }
  else if name = "controller_commands" then
    return { fields with device := ← fresh fields.device (names pair.2) }
  else if name = "predefined_commands" then
    return { fields with predefined := ← fresh fields.predefined (list document names pair.2) }
  else return fields

/-- Reads a configuration. -/
def config (document : Document) : NodeReader Config := do
  match document.root with
  | none => return defaults
  | some root =>
    match ← follow document root with
    | .mapping pairs => return (← pairs.foldlM (field document) {}).config
    | .scalar "" .plain _ => return defaults
    | _ => failure

end NodeReader

/-- How many aliases may be followed in a document. -/
def aliasLimit (document : Document) : Nat :=
  100 * (document.root.map Node.size).getD 1

/-- Reads a configuration from YAML text, without validating it. -/
def ofYaml? (text : String) : Option Config :=
  match Yaml.parse text.toList with
  | .ok document => ((NodeReader.config document).run (aliasLimit document)).map Prod.fst
  | .error _ => none

/-- Reads and validates a configuration from YAML text. -/
def parse (text : String) : Except Fault Config :=
  match ofYaml? text with
  | some config => config.validate
  | none => .error (.invalidConfig "YAML parse error")

/-- Reads and validates a configuration from a file of YAML text. -/
def load (file : Input.File) : Except Fault Config := do
  parse (← file.readText "load_config")

end TiltMenu.Config
