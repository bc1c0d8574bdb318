import TiltMenu.CommandLine.Words
import TiltMenu.Store.Basic

/-!
# Requests to the store

The four commands of the store family, and the reading of a command line as one
of them. A request is read against the store: the key of a `getdb` must exist,
and the value of a `setdb` is read as the type that its key has.
-/

set_option autoImplicit false

namespace TiltMenu.Store

/-- The commands of the store family. -/
inductive Verb where
  | get
  | set
  | list
  | reset
  deriving DecidableEq, Repr

namespace Verb

/-- Every command, in the order of the documentation. -/
def all : List Verb := [.get, .set, .list, .reset]

/-- The name by which the command is called. -/
def name : Verb → String
  | .get => "getdb"
  | .set => "setdb"
  | .list => "listdb"
  | .reset => "resetdb"

/-- The number of arguments that the command takes. -/
def arity : Verb → Nat
  | .get => 1
  | .set => 2
  | .list | .reset => 0

/-- The command of a name. -/
def ofName? (name : String) : Option Verb := all.find? (·.name == name)

end Verb

/-- A command with its arguments read. -/
inductive Request where
  | get (key : String)
  | set (key : String) (value : Value)
  | list
  | reset
  deriving DecidableEq, Repr

namespace Request

/-- The command that the request makes. -/
def verb : Request → Verb
  | .get _ => .get
  | .set _ _ => .set
  | .list => .list
  | .reset => .reset

/-- Reads the arguments of a command. -/
def ofArguments (store : Store) (verb : Verb) (arguments : List String) :
    Except Fault Request :=
  match verb, arguments with
  | .get, [key] => (store.get key).map fun _ => .get key
  | .set, [key, raw] => (store.parseValue key raw).map fun value => .set key value
  | .list, [] => .ok .list
  | .reset, [] => .ok .reset
  | verb, arguments => .error (.wrongArity verb.name verb.arity arguments.length)

/-- Reads a command line as a request to the store. -/
def parse (store : Store) (commandLine : CommandLine) : Except Fault Request :=
  match commandLine with
  | [] => .error .emptyInput
  | name :: arguments =>
    match Verb.ofName? name with
    | none => .error (.unsupportedCommand name)
    | some verb => ofArguments store verb arguments

end Request

end TiltMenu.Store
