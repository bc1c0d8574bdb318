import TiltMenu.Store.Request

/-!
# Reading requests

Every way of reading a value for a key (`readsValue`) and a command line as a request
(`reads`), each with the condition under which it is taken and what comes of it. A `setdb` of
three words is read as a value for its key (`parse_assignment`).
-/

set_option autoImplicit false

namespace TiltMenu.Store

/-- The ways of reading a text as a value for a key. -/
inductive ReadsValue (store : Store) (key raw : String) : Except Fault Value → Prop where
  | missing (absent : store.get? key = none) : ReadsValue store key raw (.error (.keyNotFound key))
  | locked {value : Value} (present : store.get? key = some ⟨value, .readOnly⟩) :
      ReadsValue store key raw (.error (.readOnlyKey key))
  | text {content : String} (present : store.get? key = some ⟨.text content, .readWrite⟩) :
      ReadsValue store key raw (.ok (.text raw))
  | int {held number : Int64} (present : store.get? key = some ⟨.int held, .readWrite⟩)
      (digits : Text.readInt64 raw.toList = .ok number) :
      ReadsValue store key raw (.ok (.int number))
  | malformed {held : Int64} {fault : Text.NumberFault}
      (present : store.get? key = some ⟨.int held, .readWrite⟩)
      (digits : Text.readInt64 raw.toList = .error fault) :
      ReadsValue store key raw (.error (.invalidValue key raw fault.message))

theorem readsValue (store : Store) (key raw : String) :
    ReadsValue store key raw (store.parseValue key raw) := by
  unfold parseValue
  split
  · next absent => exact .missing absent
  · next value present => exact .locked present
  · next content present => exact .text present
  · next held present =>
    split
    · next number digits => exact .int present digits
    · next fault digits => exact .malformed present digits

/-- A command is found under its own name only. -/
theorem Verb.name_of_ofName? {name : String} {verb : Verb} (known : ofName? name = some verb) :
    verb.name = name := by
  simpa using List.find?_some known

/-- The ways of reading a command line as a request. -/
inductive Request.Reads (store : Store) : CommandLine → Except Fault Request → Prop where
  | empty : Reads store [] (.error .emptyInput)
  | unsupported {name : String} {arguments : List String} (unknown : Verb.ofName? name = none) :
      Reads store (name :: arguments) (.error (.unsupportedCommand name))
  | miscounted {name : String} {arguments : List String} {verb : Verb}
      (known : Verb.ofName? name = some verb) (count : arguments.length ≠ verb.arity) :
      Reads store (name :: arguments) (.error (.wrongArity verb.name verb.arity arguments.length))
  | getMissing {name key : String} (known : Verb.ofName? name = some .get)
      (absent : store.get? key = none) : Reads store [name, key] (.error (.keyNotFound key))
  | get {name key : String} {held : Parameter} (known : Verb.ofName? name = some .get)
      (present : store.get? key = some held) : Reads store [name, key] (.ok (.get key))
  | setUnread {name key raw : String} {fault : Fault} (known : Verb.ofName? name = some .set)
      (unread : store.parseValue key raw = .error fault) :
      Reads store [name, key, raw] (.error fault)
  | set {name key raw : String} {value : Value} (known : Verb.ofName? name = some .set)
      (read : store.parseValue key raw = .ok value) :
      Reads store [name, key, raw] (.ok (.set key value))
  | list {name : String} (known : Verb.ofName? name = some .list) :
      Reads store [name] (.ok .list)
  | reset {name : String} (known : Verb.ofName? name = some .reset) :
      Reads store [name] (.ok .reset)

/-- **Every command line is read in one of these ways.** -/
theorem Request.reads (store : Store) (commandLine : CommandLine) :
    Reads store commandLine (parse store commandLine) := by
  cases commandLine with
  | nil => exact .empty
  | cons name arguments =>
    cases known : Verb.ofName? name with
    | none =>
      simp only [parse, known]
      exact .unsupported known
    | some verb =>
      simp only [parse, known]
      unfold ofArguments
      split
      · next key =>
        cases present : store.get? key with
        | none =>
          simp only [Store.get, present]
          exact .getMissing known present
        | some held =>
          simp only [Store.get, present]
          exact .get known present
      · next key raw =>
        cases read : store.parseValue key raw with
        | error fault => exact .setUnread known read
        | ok value => exact .set known read
      · exact .list known
      · exact .reset known
      · next single double listed restored =>
        refine .miscounted known fun count => ?_
        cases verb with
        | get =>
          obtain ⟨key, rfl⟩ := List.length_eq_one_iff.mp count
          exact single key rfl rfl
        | set =>
          match arguments, count with
          | [key, raw], _ => exact double key raw rfl rfl
        | list => exact listed rfl (List.length_eq_zero_iff.mp count)
        | reset => exact restored rfl (List.length_eq_zero_iff.mp count)

/-! ## Assignments -/

/-- The command line that writes a text under a key. -/
def assignment (key raw : String) : CommandLine := [Verb.set.name, key, raw]

/-- An assignment is read by reading its text as a value for its key. -/
theorem parse_assignment (store : Store) (key raw : String) :
    Request.parse store (assignment key raw) =
      (store.parseValue key raw).map fun value => .set key value :=
  rfl

end TiltMenu.Store
