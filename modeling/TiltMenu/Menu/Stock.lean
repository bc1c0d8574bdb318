import TiltMenu.Config.Basic
import TiltMenu.Device.Controller
import TiltMenu.Menu.Session

/-!
# The stock menu

The menu as it is delivered: the controller of the device and the validators of
both families. A new menu has no names in its families; a configuration brings
them.
-/

set_option autoImplicit false

namespace TiltMenu

/-- The menu over the controller of the device. -/
abbrev StockMenu := Menu Device.Controller Device.Rules Store.Rules

namespace StockMenu

/-- A menu over a store, with a new controller and no names. -/
def new (name : String) (store : Store) : StockMenu where
  name := name
  store := store
  executor := {}
  deviceValidator := {}
  storeValidator := {}

end StockMenu

end TiltMenu
