import TiltMenu.Device.Command
import TiltMenu.Proofs.Store.Lookup

/-!
# Which tilts are accepted

A command line is read as a move only if it is `SetTilt` with the text of one tilt and the
window of the store admits that tilt (`parse_eq_setTilt_iff`). The window computes with
64-bit integers; what it admits lies in the window and on its grid in the sense of the exact
integers (`Window.admits_iff`).
-/

set_option autoImplicit false

namespace TiltMenu.Device

namespace Window

/-- The tilt lies in the window, a whole number of positive steps above its lower end. All
of this is said of exact integers. -/
structure Allows (window : Window) (tilt : Int64) : Prop where
  above : window.min.toInt ≤ tilt.toInt
  below : tilt.toInt ≤ window.max.toInt
  positive : 0 < window.step.toInt
  grid : window.step.toInt ∣ tilt.toInt - window.min.toInt

theorem offset?_eq_some_iff (window : Window) (tilt offset : Int64) :
    window.offset? tilt = some offset ↔ offset.toInt = tilt.toInt - window.min.toInt :=
  Text.int64OfInt?_eq_some_iff _ offset

theorem onStep_iff (window : Window) (tilt : Int64) :
    window.onStep tilt = true ↔
      0 < window.step.toInt ∧ ∃ offset : Int64, offset.toInt = tilt.toInt - window.min.toInt ∧
        window.step.toInt ∣ tilt.toInt - window.min.toInt := by
  rw [onStep, Bool.and_eq_true, decide_eq_true_iff, Int64.lt_iff_toInt_lt, Int64.toInt_zero,
    Option.any_eq_true]
  refine and_congr_right fun _ => exists_congr fun offset => ?_
  rw [offset?_eq_some_iff, decide_eq_true_iff]
  constructor
  · rintro ⟨exact, divides⟩
    exact ⟨exact, exact ▸ divides⟩
  · rintro ⟨exact, divides⟩
    exact ⟨exact, exact.symm ▸ divides⟩

/-- **The window admits what the exact integers allow**, as long as the distance from the
lower end is a 64-bit integer. -/
theorem admits_iff (window : Window) (tilt : Int64) :
    window.admits tilt = true ↔
      window.Allows tilt ∧ ∃ offset : Int64, offset.toInt = tilt.toInt - window.min.toInt := by
  rw [admits, Bool.and_eq_true, Bool.and_eq_true, decide_eq_true_iff, decide_eq_true_iff,
    Int64.le_iff_toInt_le, Int64.le_iff_toInt_le, onStep_iff]
  constructor
  · rintro ⟨⟨above, below⟩, positive, offset, exact, grid⟩
    exact ⟨⟨above, below, positive, grid⟩, offset, exact⟩
  · rintro ⟨⟨above, below, positive, grid⟩, offset, exact⟩
    exact ⟨⟨above, below⟩, positive, offset, exact, grid⟩

/-- The window of a store is made of its three tilt parameters. -/
theorem ofStore_eq_ok_iff (store : Store) (window : Window) :
    ofStore store = .ok window ↔
      store.int Store.Key.minTilt = .ok window.min ∧
      store.int Store.Key.maxTilt = .ok window.max ∧
      store.int Store.Key.tiltStep = .ok window.step := by
  unfold ofStore
  cases store.int Store.Key.minTilt with
  | error fault => simp [bind, Except.bind]
  | ok min =>
    cases store.int Store.Key.maxTilt with
    | error fault => simp [bind, Except.bind]
    | ok max =>
      cases store.int Store.Key.tiltStep with
      | error fault => simp [bind, Except.bind]
      | ok step =>
        obtain ⟨lower, upper, grid⟩ := window
        simp [bind, Except.bind, pure, Except.pure]

end Window

/-- A procedure is found under its own name only. -/
theorem Procedure.name_of_ofName? {name : String} {procedure : Procedure}
    (known : ofName? name = some procedure) : procedure.name = name := by
  simpa using List.find?_some known

namespace Command

theorem checkTilt_eq_ok_iff (store : Store) (tilt : Int64) (command : Command) :
    checkTilt store tilt = .ok command ↔
      command = .setTilt tilt ∧
      ∃ window, Window.ofStore store = .ok window ∧ window.admits tilt = true := by
  unfold checkTilt
  cases Window.ofStore store with
  | error fault => simp
  | ok window =>
    cases admitted : window.admits tilt with
    | true => simp [admitted, @eq_comm _ command]
    | false => simp [admitted]

theorem ofTilt_eq_ok_iff (store : Store) (raw : String) (command : Command) :
    ofTilt store raw = .ok command ↔
      ∃ tilt, Text.readInt64 raw.toList = .ok tilt ∧ checkTilt store tilt = .ok command := by
  unfold ofTilt
  cases Text.readInt64 raw.toList <;> simp

/-- Only the procedure of a move reads as a move. -/
theorem ofArguments_eq_setTilt_iff (store : Store) (procedure : Procedure)
    (arguments : List String) (tilt : Int64) :
    ofArguments store procedure arguments = .ok (.setTilt tilt) ↔
      procedure = .setTilt ∧ ∃ raw, arguments = [raw] ∧ ofTilt store raw = .ok (.setTilt tilt) := by
  have plain : ∀ command : Command, command ≠ .setTilt tilt →
      withoutArguments command arguments ≠ .ok (.setTilt tilt) := by
    intro command other
    unfold withoutArguments
    split <;> simp [other]
  cases procedure with
  | setTilt => rcases arguments with _ | ⟨raw, _ | ⟨second, rest⟩⟩ <;> simp [ofArguments]
  | getTilt => simpa [ofArguments] using plain .getTilt (by simp)
  | calibrate => simpa [ofArguments] using plain .calibrate (by simp)
  | getAlarmStatus => simpa [ofArguments] using plain .getAlarmStatus (by simp)
  | clearActiveAlarms => simpa [ofArguments] using plain .clearActiveAlarms (by simp)
  | resetSoftware => simpa [ofArguments] using plain .resetSoftware (by simp)
  | getInformation => simpa [ofArguments] using plain .getInformation (by simp)

/-- **A command line is read as a move exactly when the window of the store admits its
tilt.** -/
theorem parse_eq_setTilt_iff (store : Store) (commandLine : CommandLine) (tilt : Int64) :
    parse store commandLine = .ok (.setTilt tilt) ↔
      ∃ raw, commandLine = [Procedure.setTilt.name, raw] ∧
        Text.readInt64 raw.toList = .ok tilt ∧
        ∃ window, Window.ofStore store = .ok window ∧ window.admits tilt = true := by
  cases commandLine with
  | nil => simp [parse]
  | cons name arguments =>
    constructor
    · intro read
      cases known : Procedure.ofName? name with
      | none => simp [parse, known] at read
      | some procedure =>
        simp only [parse, known] at read
        obtain ⟨rfl, raw, rfl, parsed⟩ := (ofArguments_eq_setTilt_iff _ _ _ _).mp read
        obtain ⟨number, digits, checked⟩ := (ofTilt_eq_ok_iff _ _ _).mp parsed
        obtain ⟨same, window, present, admitted⟩ := (checkTilt_eq_ok_iff _ _ _).mp checked
        cases same
        exact ⟨raw, by rw [Procedure.name_of_ofName? known], digits, window, present, admitted⟩
    · rintro ⟨raw, same, digits, window, present, admitted⟩
      cases same
      have checked : checkTilt store tilt = .ok (.setTilt tilt) :=
        (checkTilt_eq_ok_iff _ _ _).mpr ⟨rfl, window, present, admitted⟩
      have parsed : ofTilt store raw = .ok (.setTilt tilt) :=
        (ofTilt_eq_ok_iff _ _ _).mpr ⟨tilt, digits, checked⟩
      exact (ofArguments_eq_setTilt_iff _ _ _ _).mpr ⟨rfl, raw, rfl, parsed⟩

end Command

end TiltMenu.Device
