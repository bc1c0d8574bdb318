import TiltMenu.Menu.Session

/-!
# Rehearsals

Parts to rehearse a menu with: validators that always give the same verdict and
count their inspections, and an executor that plays back prepared results and
remembers everything that was ever queued. A command is the text of its command
line.
-/

set_option autoImplicit false

namespace TiltMenu.Rehearsal

/-- A validator with a fixed verdict. -/
structure CountingValidator where
  accepting : Bool
  inspections : Nat := 0
  deriving DecidableEq, Repr

instance : Validator CountingValidator String where
  inspect validator _ commandLine :=
    { accepted := if validator.accepting then some (String.intercalate " " commandLine) else none
      validator := { validator with inspections := validator.inspections + 1 }
      events := [] }

/-- An executor with prepared results. Once they are used up, executions succeed. -/
structure ScriptedExecutor where
  results : List Bool := []
  queued : List String := []
  executions : Nat := 0
  deriving DecidableEq, Repr

instance : Executor ScriptedExecutor String where
  enqueue executor commands :=
    ({ executor with queued := executor.queued ++ commands }, [])
  execute executor :=
    { succeeded := executor.results.headD true
      state :=
        { executor with
          results := executor.results.tail
          executions := executor.executions + 1 }
      events := [] }

/-- The menu to rehearse with. One name belongs to both families. -/
def menu (name : String) (store : Store) (results : List Bool)
    (acceptStore acceptDevice : Bool) :
    Menu ScriptedExecutor CountingValidator CountingValidator where
  name := name
  store := store
  executor := { results := results }
  deviceValidator := { accepting := acceptDevice }
  storeValidator := { accepting := acceptStore }
  families :=
    { store := .ofList ["getdb", "listdb", "shared"]
      device := .ofList ["SetTilt", "Calibrate", "shared"] }

end TiltMenu.Rehearsal
