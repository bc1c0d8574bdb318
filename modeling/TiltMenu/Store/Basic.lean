import TiltMenu.Fault
import TiltMenu.Sorted
import TiltMenu.Text.Number

/-!
# The parameter store

The store keeps the parameters of the device by key. A parameter is an integer
or a text and keeps that type for good; one that is read-only keeps its value as
well. Three parameters belong together: the tilt window is consistent when its
lower end does not exceed its upper end and its step is positive.

The entries of a store are listed in increasing order of their keys, each key
once, so that two stores with the same parameters are equal.
-/

set_option autoImplicit false

namespace TiltMenu

namespace Store

/-- The value of a parameter. -/
inductive Value where
  | int (number : Int64)
  | text (content : String)
  deriving DecidableEq, Repr

namespace Value

/-- The value as it is displayed. -/
def display : Value → String
  | .int number => Text.writeInt64 number
  | .text content => content

/-- The two values are both integers or both texts. -/
def sameType : Value → Value → Bool
  | .int _, .int _ | .text _, .text _ => true
  | _, _ => false

end Value

/-- Whether a parameter may be written. -/
inductive Access where
  | readWrite
  | readOnly
  deriving DecidableEq, Repr

/-- The name of the access in the log. -/
def Access.name : Access → String
  | .readWrite => "ReadWrite"
  | .readOnly => "ReadOnly"

/-- A value and whether it may be written. -/
structure Parameter where
  value : Value
  access : Access
  deriving DecidableEq, Repr

/-! ## Keys -/

namespace Key

def minTilt : String := "min_tilt"
def maxTilt : String := "max_tilt"
def tiltStep : String := "tilt_step"
def vendorCode : String := "vendor_code"
def serialNumber : String := "serial_number"
def deviceType : String := "device_type"
def installationDate : String := "installation_date"
def baseStationId : String := "base_station_id"

/-- The keys of a device as it is delivered. -/
def all : List String :=
  [minTilt, maxTilt, tiltStep, vendorCode, serialNumber, deviceType, installationDate,
    baseStationId]

end Key

end Store

/-- Parameters by key, in increasing order of the keys. -/
structure Store where
  entries : List (String × Store.Parameter)
  increasing : Sorted.Increasing Prod.fst entries := by decide
  deriving DecidableEq

namespace Store

/-- Stores with the same entries are equal. -/
@[ext]
theorem ext {left right : Store} (same : left.entries = right.entries) : left = right := by
  cases left
  cases right
  simp_all

/-- The store without parameters. -/
def empty : Store where
  entries := []
  increasing := List.Pairwise.nil

/-- The store of a device as it is delivered. -/
def defaults : Store where
  entries :=
    [(Key.baseStationId, ⟨.text "", .readWrite⟩),
      (Key.deviceType, ⟨.text "RET", .readOnly⟩),
      (Key.installationDate, ⟨.text "", .readWrite⟩),
      (Key.maxTilt, ⟨.int 100, .readWrite⟩),
      (Key.minTilt, ⟨.int 0, .readWrite⟩),
      (Key.serialNumber, ⟨.text "ALMAG00000001", .readOnly⟩),
      (Key.tiltStep, ⟨.int 1, .readWrite⟩),
      (Key.vendorCode, ⟨.text "AL", .readWrite⟩)]

/-! ## Looking up -/

/-- The parameter of a key, if there is one. -/
def get? (store : Store) (key : String) : Option Parameter := store.entries.lookup key

/-- The parameter of a key. -/
def get (store : Store) (key : String) : Except Fault Parameter :=
  match store.get? key with
  | some parameter => .ok parameter
  | none => .error (.keyNotFound key)

/-- The integer of a key. -/
def int (store : Store) (key : String) : Except Fault Int64 :=
  match store.get? key with
  | some ⟨.int number, _⟩ => .ok number
  | some ⟨.text content, _⟩ => .error (.invalidValue key content "not an integer")
  | none => .error (.keyNotFound key)

/-- The integer of a key, if the key has one. -/
def int? (store : Store) (key : String) : Option Int64 := (store.int key).toOption

/-- The number of parameters. -/
def size (store : Store) : Nat := store.entries.length

/-! ## Writing -/

/-- The store with a parameter under a key, in place of any that was there. -/
def insert (store : Store) (key : String) (parameter : Parameter) : Store where
  entries := Sorted.insert Prod.fst (key, parameter) store.entries
  increasing := Sorted.increasing_insert _ store.increasing

/-- The store with the parameters of a list put in one after the other. -/
def ofList (entries : List (String × Parameter)) : Store where
  entries := Sorted.ofList Prod.fst entries
  increasing := Sorted.increasing_ofList entries

/-- Reads a text as a new value for a key. It has to be writable, and the text is
read as a value of the type that the key has. -/
def parseValue (store : Store) (key raw : String) : Except Fault Value :=
  match store.get? key with
  | none => .error (.keyNotFound key)
  | some ⟨_, .readOnly⟩ => .error (.readOnlyKey key)
  | some ⟨.text _, .readWrite⟩ => .ok (.text raw)
  | some ⟨.int _, .readWrite⟩ =>
    match Text.readInt64 raw.toList with
    | .ok number => .ok (.int number)
    | .error fault => .error (.invalidValue key raw fault.message)

/-- The store with another value under a writable key. The type of the value must
not change. -/
def set (store : Store) (key : String) (value : Value) : Except Fault Store :=
  match store.get? key with
  | none => .error (.keyNotFound key)
  | some ⟨_, .readOnly⟩ => .error (.readOnlyKey key)
  | some ⟨held, .readWrite⟩ =>
    if held.sameType value then .ok (store.insert key ⟨value, .readWrite⟩)
    else .error (.invalidValue key value.display "type change not allowed")

/-! ## Consistency -/

/-- The fault of a tilt window whose lower end exceeds its upper end. -/
def windowFault? (store : Store) : Option Fault :=
  match store.int? Key.minTilt, store.int? Key.maxTilt with
  | some min, some max =>
    if max < min then
      some (.invalidValue Key.minTilt (Text.writeInt64 min)
        ("exceeds " ++ Key.maxTilt ++ " (" ++ Text.writeInt64 max ++ ")"))
    else none
  | _, _ => none

/-- The fault of a tilt step that is not positive. -/
def stepFault? (store : Store) : Option Fault :=
  match store.int? Key.tiltStep with
  | some step =>
    if step ≤ 0 then
      some (.invalidValue Key.tiltStep (Text.writeInt64 step) "must be positive")
    else none
  | none => none

/-- What is wrong with the tilt parameters. Those that are absent or no integers
are not looked at. -/
def inconsistency? (store : Store) : Option Fault := store.windowFault? <|> store.stepFault?

/-- Nothing is wrong with the tilt parameters. -/
def IsConsistent (store : Store) : Prop := store.inconsistency? = none

instance (store : Store) : Decidable store.IsConsistent :=
  inferInstanceAs (Decidable (store.inconsistency? = none))

/-- The device is delivered with a consistent store. -/
theorem isConsistent_defaults : defaults.IsConsistent := by decide

end Store

end TiltMenu
