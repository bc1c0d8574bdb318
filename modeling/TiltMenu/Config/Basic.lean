import TiltMenu.Device.Command
import TiltMenu.Fault
import TiltMenu.Menu.Basic
import TiltMenu.Store.Request
import TiltMenu.Text.Blank

/-!
# Configuration

A configuration names the commands of both families and may bring command lines
to run at the start of a batch. It is valid if its schema version is supported
and no name in it is blank; of several faults the version counts first, then the
first blank name of the store family, then that of the device family.
-/

set_option autoImplicit false

namespace TiltMenu

/-- The names of both families and the command lines that come with them. -/
structure Config where
  schemaVersion : UInt32
  storeCommands : List String
  deviceCommands : List String
  predefined : List CommandLine
  deriving DecidableEq, Repr

namespace Config

/-- The schema version that is supported. -/
def supportedVersion : UInt32 := 0

/-- All commands of both families, and nothing to run. -/
def defaults : Config where
  schemaVersion := supportedVersion
  storeCommands := Store.Verb.all.map (·.name)
  deviceCommands := Device.Procedure.all.map (·.name)
  predefined := []

/-- The names of the fields in the order in which they are written. -/
def fieldNames : List String :=
  ["schema_version", "database_commands", "controller_commands", "predefined_commands"]

/-! ## Validity -/

/-- A name without any character that is not blank. -/
def isBlankName (name : String) : Bool := Text.isBlankText name.toList

/-- The first blank name of a family, as a fault that gives its position. -/
def blankName? (family : String) (names : List String) : Option Fault :=
  (names.findIdx? isBlankName).map fun position =>
    .invalidConfig ("Blank command name at " ++ family ++ "[" ++ toString position ++ "]")

/-- The fault of a schema version that is not supported. -/
def versionFault? (version : UInt32) : Option Fault :=
  if version = supportedVersion then none
  else some (.invalidConfig
    ("Unsupported schema_version: " ++ toString version.toNat ++ ". Expected "
      ++ toString supportedVersion.toNat))

/-- The first thing that is wrong with a configuration. -/
def fault? (config : Config) : Option Fault :=
  versionFault? config.schemaVersion
    <|> blankName? "database_commands" config.storeCommands
    <|> blankName? "controller_commands" config.deviceCommands

/-- The configuration if it is valid. -/
def validate (config : Config) : Except Fault Config :=
  match config.fault? with
  | some fault => .error fault
  | none => .ok config

end Config

/-- The menu with the names of a configuration in both families. -/
def Menu.applyConfig {σ ν δ : Type} (menu : Menu σ ν δ) (config : Config) : Menu σ ν δ :=
  ((menu.replaceStoreNames config.storeCommands).2.replaceDeviceNames config.deviceCommands).2

end TiltMenu
