import TiltMenu.Proofs.Store.Transaction
import TiltMenu.Proofs.Text.Number

/-!
# Assignments

What comes of an assignment is either the value that its key takes or the fault that stands
against it (`assign`). A run of the assignment succeeds in the first case and writes the value
(`state_run_assignment`), and in the second case logs the fault. So two stores that agree on what
comes of an assignment answer it alike (`run_assignment_congr`).

A value that may be written is shown in a text that writes it back: the assignment of the text to
the key is accepted with the very value, and it changes nothing (`shown_value_writes_back`).
-/

set_option autoImplicit false

namespace TiltMenu

/-- The two outcomes differ in the state that they leave at most. -/
structure Outcome.SameAnswer {σ : Type} (first second : Outcome σ) : Prop where
  succeeded : first.succeeded = second.succeeded
  events : first.events = second.events

namespace Store

/-! ## What comes of an assignment -/

/-- What comes of writing a text under a key: the value that the key takes, or the fault that
stands against it. -/
def assign (store : Store) (key raw : String) : Except Fault Value :=
  match store.parseValue key raw with
  | .error fault => .error fault
  | .ok value =>
    match (store.withValue key value).inconsistency? with
    | some fault => .error fault
    | none => .ok value

theorem assign_eq_ok_iff (store : Store) (key raw : String) (value : Value) :
    store.assign key raw = .ok value ↔
      store.parseValue key raw = .ok value ∧ (store.withValue key value).IsConsistent := by
  unfold assign
  cases store.parseValue key raw with
  | error fault => simp
  | ok read =>
    cases judged : (store.withValue key read).inconsistency? with
    | none =>
      simp only [judged, Except.ok.injEq]
      refine ⟨?_, And.left⟩
      rintro rfl
      exact ⟨rfl, judged⟩
    | some fault =>
      simp only [judged, reduceCtorEq, Except.ok.injEq, false_iff]
      rintro ⟨rfl, consistent⟩
      cases judged.symm.trans consistent

/-- An assignment is executed by what comes of it. -/
theorem execute_assignment (store : Store) (key raw : String) :
    store.execute (assignment key raw) =
      (store.assign key raw).map fun value => (store.withValue key value, []) := by
  unfold execute assign
  rw [parse_assignment]
  cases read : store.parseValue key raw with
  | error fault => rfl
  | ok value =>
    have staged := set_eq_withValue (fits_of_parseValue read)
    simp only [Except.map, grant, staged]
    cases (store.withValue key value).inconsistency? <;> rfl

/-- A run of an assignment succeeds if its key takes a value. -/
theorem succeeded_run_assignment_iff (store : Store) (key raw : String) :
    (store.run (assignment key raw)).succeeded = true ↔
      ∃ value, store.assign key raw = .ok value := by
  unfold run
  rw [execute_assignment]
  cases store.assign key raw <;> simp [Except.map]

/-- It writes the value that the key takes, and nothing if there is a fault. -/
theorem state_run_assignment (store : Store) (key raw : String) :
    (store.run (assignment key raw)).state =
      match store.assign key raw with
      | .ok value => store.withValue key value
      | .error _ => store := by
  unfold run
  rw [execute_assignment]
  cases store.assign key raw <;> rfl

/-- **Stores that agree on what comes of an assignment answer it alike.** -/
theorem run_assignment_congr {left right : Store} {key raw : String}
    (same : left.assign key raw = right.assign key raw) :
    (left.run (assignment key raw)).SameAnswer (right.run (assignment key raw)) := by
  unfold run
  rw [execute_assignment, execute_assignment, same]
  cases right.assign key raw <;> exact ⟨rfl, rfl⟩

/-! ## Values written back -/

/-- The text of an integer is read as that integer for a key that holds one. -/
theorem parseValue_writeInt64 {store : Store} {key : String} {held : Int64}
    (present : store.get? key = some ⟨.int held, .readWrite⟩) (number : Int64) :
    store.parseValue key (Text.writeInt64 number) = .ok (.int number) := by
  simp only [parseValue, present, Text.readInt64_writeInt64]

/-- A value that may be written is read back from the text in which it is shown. -/
theorem parseValue_display {store : Store} {key : String} {value : Value}
    (present : store.get? key = some ⟨value, .readWrite⟩) :
    store.parseValue key value.display = .ok value := by
  cases value with
  | int number => exact parseValue_writeInt64 present number
  | text content => simp only [parseValue, present, Value.display]

/-- **What is shown of a parameter that may be written can be written back.** The assignment of
the text is accepted as that of the very value, of the type that it has, and it leaves the store
as it is. It succeeds if the store is consistent, and only then. For a key that holds an integer
the decimal text of every 64-bit integer is read as that integer. -/
theorem shown_value_writes_back (rules : Rules) {store : Store} {key : String} {value : Value}
    (present : store.get? key = some ⟨value, .readWrite⟩) :
    let commandLine := assignment key value.display
    (Validator.inspect rules store commandLine).accepted = some (.set key value) ∧
      (store.run commandLine).state = store ∧
      ((store.run commandLine).succeeded = true ↔ store.IsConsistent) ∧
      ∀ held : Int64, value = .int held → ∀ number : Int64,
        store.parseValue key (Text.writeInt64 number) = .ok (.int number) := by
  have read := parseValue_display present
  have unchanged : store.withValue key value = store := withValue_of_held present
  refine ⟨?accepted, ?kept, ?succeeds, ?integers⟩
  case accepted =>
    rw [accepted_iff_parse, parse_assignment, read]
    rfl
  case kept =>
    rw [state_run_assignment]
    split
    · next taken assigned =>
      obtain ⟨same, _⟩ := (store.assign_eq_ok_iff _ _ _).mp assigned
      cases read.symm.trans same
      exact unchanged
    · rfl
  case succeeds =>
    simp only [succeeded_run_assignment_iff, assign_eq_ok_iff, read, Except.ok.injEq,
      exists_eq_left', unchanged]
  case integers =>
    rintro held rfl number
    exact parseValue_writeInt64 present number

/-- The least integer is written back to the lower end of the window, and the text of the greatest
one is read as a value for it. -/
theorem shown_value_writes_back_of_least :
    let store := defaults.insert Key.minTilt ⟨.int Int64.minValue, .readWrite⟩
    let commandLine := assignment Key.minTilt "-9223372036854775808"
    (Validator.inspect ({} : Rules) store commandLine).accepted =
        some (.set Key.minTilt (.int Int64.minValue)) ∧
      (store.run commandLine).succeeded = true ∧ (store.run commandLine).state = store ∧
      store.parseValue Key.minTilt "9223372036854775807" = .ok (.int Int64.maxValue) := by
  intro store commandLine
  have present : store.get? Key.minTilt = some ⟨.int Int64.minValue, .readWrite⟩ := by decide
  have least : (Value.int Int64.minValue).display = "-9223372036854775808" := by decide
  have greatest : Text.writeInt64 Int64.maxValue = "9223372036854775807" := by decide
  obtain ⟨accepted, kept, succeeds, integers⟩ := shown_value_writes_back {} present
  rw [least] at accepted kept succeeds
  have read := integers _ rfl Int64.maxValue
  rw [greatest] at read
  exact ⟨accepted, succeeds.mpr (by decide), kept, read⟩

end Store

end TiltMenu
