import TiltMenu.Device.Controller
import TiltMenu.Proofs.Device.Tilt

/-!
# Which moves the validator accepts

A command line asks for a move that the store allows if it is `SetTilt` with the text of one
tilt, the three tilt parameters are integers, and the tilt lies in their window on one of its
steps (`IsAllowedMove`). All of this is said of exact integers.

The validator accepts exactly these command lines, as long as the tilt is less than 2^63 above
the lower end of the window (`accepts_move_iff`): it takes the distance as a 64-bit integer, and
a distance that is none counts as off the steps. In a window as wide as that it turns down tilts
that the window allows (`turnsDown_allowed_move`).
-/

set_option autoImplicit false

namespace TiltMenu.Device

namespace Window

/-- The distance of a tilt in the window from its lower end is a 64-bit integer if it is below
2^63. -/
theorem exists_offset_iff {window : Window} {tilt : Int64}
    (above : window.min.toInt ≤ tilt.toInt) :
    (∃ offset : Int64, offset.toInt = tilt.toInt - window.min.toInt) ↔
      tilt.toInt - window.min.toInt < Text.int64Bound := by
  constructor
  · rintro ⟨offset, exact⟩
    rw [← exact]
    exact offset.toInt_lt
  · intro short
    refine ⟨Int64.ofInt (tilt.toInt - window.min.toInt), Int64.toInt_ofInt_of_le ?_ short⟩
    omega

/-- The window is made of the tilt parameters of the store, all of which are integers. -/
structure IsHeldBy (window : Window) (store : Store) : Prop where
  min : ∃ access, store.get? Store.Key.minTilt = some ⟨.int window.min, access⟩
  max : ∃ access, store.get? Store.Key.maxTilt = some ⟨.int window.max, access⟩
  step : ∃ access, store.get? Store.Key.tiltStep = some ⟨.int window.step, access⟩

theorem isHeldBy_iff (window : Window) (store : Store) :
    window.IsHeldBy store ↔ ofStore store = .ok window := by
  rw [ofStore_eq_ok_iff, store.int_eq_ok_iff, store.int_eq_ok_iff, store.int_eq_ok_iff]
  exact ⟨fun ⟨min, max, step⟩ => ⟨min, max, step⟩, fun ⟨min, max, step⟩ => ⟨min, max, step⟩⟩

end Window

namespace Command

/-- The command line asks for a move to a tilt, and the window of the store allows it. -/
structure IsAllowedMove (store : Store) (window : Window) (commandLine : CommandLine)
    (tilt : Int64) : Prop where
  asked : ∃ raw, commandLine = [Procedure.setTilt.name, raw] ∧
    Text.readInt64 raw.toList = .ok tilt
  held : window.IsHeldBy store
  allowed : window.Allows tilt

/-- **The validator accepts a move exactly if it is allowed and not too far up.** The command line
is `SetTilt` with the text of a tilt, the tilt parameters are integers, and over the exact integers
the step is positive, the tilt lies in the window and the step divides its distance from the lower
end. On top of that the distance has to be below 2^63. -/
theorem accepts_move_iff (rules : Rules) (store : Store) (commandLine : CommandLine)
    (tilt : Int64) :
    (Validator.inspect rules store commandLine).accepted = some (.setTilt tilt) ↔
      ∃ window, IsAllowedMove store window commandLine tilt ∧
        tilt.toInt - window.min.toInt < Text.int64Bound := by
  refine (Verdict.accepted_ofReading_iff _ _ _ _).trans ?_
  rw [parse_eq_setTilt_iff]
  constructor
  · rintro ⟨raw, asked, read, window, present, admitted⟩
    obtain ⟨allowed, offset⟩ := (window.admits_iff tilt).mp admitted
    exact ⟨window, ⟨⟨raw, asked, read⟩, (window.isHeldBy_iff store).mpr present, allowed⟩,
      (Window.exists_offset_iff allowed.above).mp offset⟩
  · rintro ⟨window, ⟨⟨raw, asked, read⟩, held, allowed⟩, short⟩
    exact ⟨raw, asked, read, window, (window.isHeldBy_iff store).mp held,
      (window.admits_iff tilt).mpr ⟨allowed, (Window.exists_offset_iff allowed.above).mpr short⟩⟩

/-- With the window open over all 64-bit integers the middle of it is allowed and turned down, as
out of range. The store is consistent. -/
theorem turnsDown_allowed_move :
    let window : Window := ⟨Int64.minValue, Int64.maxValue, 1⟩
    let store := (Store.defaults.insert Store.Key.minTilt ⟨.int window.min, .readWrite⟩).insert
      Store.Key.maxTilt ⟨.int window.max, .readWrite⟩
    let commandLine : CommandLine := ["SetTilt", "0"]
    store.IsConsistent ∧ IsAllowedMove store window commandLine 0 ∧
      (Validator.inspect ({} : Rules) store commandLine).accepted = none ∧
      parse store commandLine =
        .error (.tiltOutOfRange 0 Int64.minValue Int64.maxValue 1) := by
  intro window store commandLine
  have held : window.IsHeldBy store :=
    ⟨⟨.readWrite, by decide⟩, ⟨.readWrite, by decide⟩, ⟨.readWrite, by decide⟩⟩
  have allowed : window.Allows 0 := ⟨by decide, by decide, by decide, by decide⟩
  have read : Text.readInt64 "0".toList = .ok 0 := rfl
  refine ⟨by decide, ⟨⟨"0", rfl, read⟩, held, allowed⟩, by decide, ?_⟩
  show ofTilt store "0" = _
  have checked : checkTilt store 0 = .error (window.refuse 0) := by
    have refused : window.admits 0 = false := by decide
    simp [checkTilt, (window.isHeldBy_iff store).mp held, refused]
  simp only [ofTilt, read, checked]
  rfl

end Command

end TiltMenu.Device
