import TiltMenu.Sorted

/-!
# Command families

The first word of a command line decides to which family it belongs. The names
of the store family and of the device family are configurable. They are looked
up in this order and before the built-in actions, so that a name in both belongs
to the store family, and a configured name may hide an action.

A set of names is kept in increasing order without repetition: neither the order
nor the repetitions of the list that it is made of can be seen.
-/

set_option autoImplicit false

namespace TiltMenu

/-- Names in increasing order, each once. -/
structure NameSet where
  names : List String
  increasing : Sorted.Increasing id names := by decide
  deriving DecidableEq

namespace NameSet

/-- The set without names. -/
def empty : NameSet where
  names := []
  increasing := List.Pairwise.nil

/-- The set of the names in a list. -/
def ofList (names : List String) : NameSet where
  names := Sorted.ofList id names
  increasing := Sorted.increasing_ofList names

/-- The name belongs to the set. -/
def contains (set : NameSet) (name : String) : Bool := set.names.contains name

end NameSet

/-- What a command line is about. -/
inductive Family where
  | store
  | device
  | help
  | exit
  | unknown
  deriving DecidableEq, Repr

/-- The name of the family in the log. -/
def Family.name : Family → String
  | .store => "Database"
  | .device => "Controller"
  | .help => "Help"
  | .exit => "Exit"
  | .unknown => "Unknown"

namespace Action

/-- The action that shows the help text. -/
def help : String := "help"

/-- The action that leaves the menu. -/
def exit : String := "exit"

/-- What is said about a name that belongs to no family. -/
def helpWhenUnknown : String := " is unknown, did you mean help?"

end Action

/-- The names of the two families that can be configured. -/
structure Families where
  store : NameSet := NameSet.empty
  device : NameSet := NameSet.empty
  deriving DecidableEq

namespace Families

/-- The family of a name. -/
def classify (families : Families) (name : String) : Family :=
  if families.store.contains name then .store
  else if families.device.contains name then .device
  else if name = Action.help then .help
  else if name = Action.exit then .exit
  else .unknown

/-- One line of the help text: the names of a family. -/
private def familyLine (title : String) (set : NameSet) : String :=
  let names := if set.names.isEmpty then " (none)" else String.join (set.names.map (" " ++ ·))
  title ++ ":" ++ names ++ "\n"

/-- The hint that a command line without words gets. -/
def usage : String :=
  "Usage: <command> [arguments...]  (type '" ++ Action.help ++ "' for the command list)"

/-- The help text: the actions and the names of both families in order. -/
def helpText (families : Families) : String :=
  usage ++ "\n" ++ "Actions:\n"
    ++ "  " ++ Action.help ++ "     print this help\n"
    ++ "  " ++ Action.exit ++ "     leave the menu\n"
    ++ familyLine "Database commands" families.store
    ++ familyLine "Controller commands" families.device

end Families

end TiltMenu
