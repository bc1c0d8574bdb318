import TiltMenu.Proofs.Store.Assignment
import TiltMenu.Proofs.Store.Limits

/-!
# The order of assignments

A store checks itself after every assignment, so what comes of one may depend on those before it.
Each of its two checks reads some keys only: the window its two ends, the step its own key. Where
a check passes before and after an assignment to one key, an assignment to another key meets it
alike on both stores, unless the check reads both keys (`check_withValue_withValue`). That happens
for the two ends of the window alone. Assignments to any other two keys are answered alike in
either order and leave the same store (`independent_assignments_commute`), and so are any number
of them in any order (`runAll_assignments_perm`).

For the ends of the window the order matters. A window is moved to another one by assigning the
lower end first if that does not go beyond the present upper end, and by assigning the upper end
first if that does not go below the present lower end; one of the two is always the case
(`window_moved_in_some_order`).
-/

set_option autoImplicit false

namespace TiltMenu.Store

/-! ## Independent keys -/

/-- The key holds an end of the tilt window. -/
def IsWindowEnd (key : String) : Prop := key = Key.minTilt ∨ key = Key.maxTilt

instance (key : String) : Decidable (IsWindowEnd key) :=
  inferInstanceAs (Decidable (key = Key.minTilt ∨ key = Key.maxTilt))

/-- The keys are different and not the two ends of the tilt window. -/
structure Independent (first second : String) : Prop where
  apart : first ≠ second
  notWindow : ¬(IsWindowEnd first ∧ IsWindowEnd second)

theorem Independent.symm {first second : String} (independent : Independent first second) :
    Independent second first where
  apart := independent.apart.symm
  notWindow := fun ⟨ofSecond, ofFirst⟩ => independent.notWindow ⟨ofFirst, ofSecond⟩

/-! ## Checks and the keys that they read -/

/-- The check comes out the same whatever values are written under keys that it does not read. -/
def ReadsOnly (check : Store → Option Fault) (reads : String → Prop) : Prop :=
  ∀ (store : Store) (key : String) (value : Value), ¬reads key →
    check (store.withValue key value) = check store

theorem windowFault?_readsOnly : ReadsOnly windowFault? IsWindowEnd := by
  intro store key value unread
  have notMin : Key.minTilt ≠ key := fun same => unread (.inl same.symm)
  have notMax : Key.maxTilt ≠ key := fun same => unread (.inr same.symm)
  unfold windowFault? int?
  rw [int_withValue_of_ne notMin, int_withValue_of_ne notMax]

theorem stepFault?_readsOnly : ReadsOnly stepFault? (· = Key.tiltStep) := by
  intro store key value unread
  unfold stepFault? int?
  rw [int_withValue_of_ne (Ne.symm unread)]

/-- **A check that does not read two keys meets an assignment to the one alike before and after an
assignment to the other**, provided it passes on both stores. -/
theorem check_withValue_withValue {check : Store → Option Fault} {reads : String → Prop}
    (readsOnly : ReadsOnly check reads) {store : Store} {first second : String}
    (apart : first ≠ second) (notBoth : ¬(reads first ∧ reads second)) {other : Value}
    (passed : check store = none) (passedAfter : check (store.withValue second other) = none)
    (value : Value) :
    check ((store.withValue second other).withValue first value) =
      check (store.withValue first value) := by
  by_cases read : reads second
  · have unread : ¬reads first := fun also => notBoth ⟨also, read⟩
    rw [readsOnly _ first value unread, readsOnly _ first value unread, passed, passedAfter]
  · rw [withValue_comm _ apart.symm, readsOnly _ second other read]

/-- What is wrong with a store after an assignment does not depend on an independent one. -/
theorem inconsistency?_withValue_withValue {store : Store} {first second : String}
    (independent : Independent first second) {other : Value} (consistent : store.IsConsistent)
    (consistentAfter : (store.withValue second other).IsConsistent) (value : Value) :
    ((store.withValue second other).withValue first value).inconsistency? =
      (store.withValue first value).inconsistency? := by
  obtain ⟨window, step⟩ := store.isConsistent_iff_faults.mp consistent
  obtain ⟨windowAfter, stepAfter⟩ := (isConsistent_iff_faults _).mp consistentAfter
  have notStep : ¬(first = Key.tiltStep ∧ second = Key.tiltStep) := by
    rintro ⟨rfl, same⟩
    exact independent.apart same.symm
  unfold inconsistency?
  rw [check_withValue_withValue windowFault?_readsOnly independent.apart independent.notWindow
      window windowAfter,
    check_withValue_withValue stepFault?_readsOnly independent.apart notStep step stepAfter]

/-! ## Independent assignments -/

/-- What comes of an assignment does not depend on an independent value. -/
theorem assign_withValue {store : Store} {first second : String}
    (independent : Independent first second) {other : Value} (consistent : store.IsConsistent)
    (consistentAfter : (store.withValue second other).IsConsistent) (raw : String) :
    (store.withValue second other).assign first raw = store.assign first raw := by
  have read : (store.withValue second other).parseValue first raw =
      store.parseValue first raw := by
    unfold parseValue
    rw [get?_withValue_of_ne independent.apart]
  unfold assign
  rw [read]
  cases store.parseValue first raw with
  | error fault => rfl
  | ok value =>
    simp only [inconsistency?_withValue_withValue independent consistent consistentAfter]

/-- **What comes of an assignment is the same after an independent one**, whatever came of that. -/
theorem assign_state_run {store : Store} (consistent : store.IsConsistent)
    {first second : String} (independent : Independent first second) (raw other : String) :
    (store.run (assignment second other)).state.assign first raw = store.assign first raw := by
  rw [state_run_assignment]
  cases assigned : store.assign second other with
  | error fault => rfl
  | ok value =>
    have staged := ((store.assign_eq_ok_iff _ _ _).mp assigned).2
    exact assign_withValue independent consistent staged raw

/-- Two independent assignments leave the same store in either order. -/
theorem state_run_run_comm {store : Store} (consistent : store.IsConsistent)
    {first second : String} (independent : Independent first second) (raw other : String) :
    ((store.run (assignment first raw)).state.run (assignment second other)).state =
      ((store.run (assignment second other)).state.run (assignment first raw)).state := by
  rw [state_run_assignment (store.run _).state, assign_state_run consistent independent.symm,
    state_run_assignment (store.run _).state, assign_state_run consistent independent,
    state_run_assignment, state_run_assignment]
  cases store.assign first raw with
  | error fault => cases store.assign second other <;> rfl
  | ok value =>
    cases store.assign second other with
    | error fault => rfl
    | ok written => exact withValue_comm store independent.apart value written

/-- **Independent assignments commute.** On a consistent store two assignments to different keys,
not the two ends of the window, leave the same store in either order. Each is answered in either
place as it is alone: it succeeds or fails alike, and it logs the same, with the same fault if it
is refused for a key that is missing or may not be written, a text that is no integer or a limit
of the tilt. -/
theorem independent_assignments_commute {store : Store} (consistent : store.IsConsistent)
    {first second : String} (independent : Independent first second) (raw other : String) :
    let one := assignment first raw
    let two := assignment second other
    ((store.run one).state.run two).state = ((store.run two).state.run one).state ∧
      ((store.run two).state.run one).SameAnswer (store.run one) ∧
      ((store.run one).state.run two).SameAnswer (store.run two) := by
  intro one two
  refine ⟨state_run_run_comm consistent independent raw other, ?_, ?_⟩
  · exact run_assignment_congr (assign_state_run consistent independent raw other)
  · exact run_assignment_congr (assign_state_run consistent independent.symm other raw)

/-- The step of the window and its upper end, which is refused in either place. -/
theorem independent_assignments_commute_of_refused :
    let one := assignment Key.tiltStep "5"
    let two := assignment Key.maxTilt "-1"
    ((defaults.run one).state.run two).state = ((defaults.run two).state.run one).state ∧
      (defaults.run one).succeeded = true ∧
      ((defaults.run one).state.run two).succeeded = false := by
  intro one two
  have independent : Independent Key.tiltStep Key.maxTilt := ⟨by decide, by decide⟩
  obtain ⟨same, _, alike⟩ :=
    independent_assignments_commute isConsistent_defaults independent "5" "-1"
  exact ⟨same, by decide, alike.succeeded.trans (by decide)⟩

/-- **Independent assignments can be run in any order.** Of a list of assignments, any two of which
are independent, every arrangement leaves the same store and succeeds if the list does. -/
theorem runAll_assignments_perm {store : Store} (consistent : store.IsConsistent)
    {given arranged : List (String × String)}
    (independent : given.Pairwise fun first second => Independent first.1 second.1)
    (rearranged : given.Perm arranged) :
    let ran := Outcome.runAll run store (given.map fun entry => assignment entry.1 entry.2)
    let other := Outcome.runAll run store (arranged.map fun entry => assignment entry.1 entry.2)
    ran.state = other.state ∧ ran.succeeded = other.succeeded := by
  induction rearranged generalizing store with
  | nil => exact ⟨rfl, rfl⟩
  | cons entry _ ih =>
    have later := ih (store.isConsistent_run (assignment entry.1 entry.2) consistent)
      (List.pairwise_cons.mp independent).2
    exact ⟨later.1, congrArg ((store.run (assignment entry.1 entry.2)).succeeded && ·) later.2⟩
  | swap one two rest =>
    have apart : Independent two.1 one.1 :=
      (List.pairwise_cons.mp independent).1 one List.mem_cons_self
    have sameState := state_run_run_comm consistent apart two.2 one.2
    have alikeOne := run_assignment_congr (assign_state_run consistent apart.symm one.2 two.2)
    have alikeTwo := run_assignment_congr (assign_state_run consistent apart two.2 one.2)
    simp only [List.map_cons, Outcome.runAll, Outcome.andThen, sameState, alikeOne.succeeded,
      alikeTwo.succeeded, Bool.and_left_comm, and_self]
  | trans first _ ihFirst ihSecond =>
    have kept := (first.pairwise_iff fun {_ _} related => Independent.symm related).mp independent
    obtain ⟨state, succeeded⟩ := ihFirst consistent independent
    obtain ⟨stateAfter, succeededAfter⟩ := ihSecond consistent kept
    exact ⟨state.trans stateAfter, succeeded.trans succeededAfter⟩

/-! ## The two ends of the window -/

/-- The assignment of an integer to a key that holds one succeeds unless it breaks the limits.
Then the integer is written. -/
theorem run_int_assignment {store : Store} (consistent : store.IsConsistent) {key raw : String}
    {held number : Int64} (present : store.get? key = some ⟨.int held, .readWrite⟩)
    (digits : Text.readInt64 raw.toList = .ok number) :
    ((store.run (assignment key raw)).succeeded = true ↔ ¬store.BreaksLimits key number) ∧
      (¬store.BreaksLimits key number →
        (store.run (assignment key raw)).state = store.withValue key (.int number)) := by
  have read : store.parseValue key raw = .ok (.int number) := by
    simp only [parseValue, present, digits]
  have staged := consistent.withValue_int_iff present number
  constructor
  · simp only [succeeded_run_assignment_iff, assign_eq_ok_iff, read, Except.ok.injEq,
      exists_eq_left', staged]
  · intro respects
    have assigned : store.assign key raw = .ok (.int number) :=
      (store.assign_eq_ok_iff _ _ _).mpr ⟨read, staged.mpr respects⟩
    rw [state_run_assignment, assigned]

/-- Two integers are assigned one after the other if neither breaks the limits at its turn. Then
both are written. -/
theorem runAll_int_assignments {store : Store} (consistent : store.IsConsistent)
    {first second firstText secondText : String} (apart : first ≠ second)
    {firstHeld secondHeld one two : Int64}
    (firstPresent : store.get? first = some ⟨.int firstHeld, .readWrite⟩)
    (secondPresent : store.get? second = some ⟨.int secondHeld, .readWrite⟩)
    (firstDigits : Text.readInt64 firstText.toList = .ok one)
    (secondDigits : Text.readInt64 secondText.toList = .ok two) :
    let staged := store.withValue first (.int one)
    let ran := Outcome.runAll run store
      [assignment first firstText, assignment second secondText]
    (ran.succeeded = true ↔
        ¬store.BreaksLimits first one ∧ ¬staged.BreaksLimits second two) ∧
      (ran.succeeded = true → ran.state = staged.withValue second (.int two)) := by
  intro staged ran
  obtain ⟨succeeds, writes⟩ := run_int_assignment consistent firstPresent firstDigits
  have both : ran.succeeded = true ↔
      (store.run (assignment first firstText)).succeeded = true ∧
        ((store.run (assignment first firstText)).state.run
          (assignment second secondText)).succeeded = true := by
    simp [ran, Outcome.runAll, Outcome.andThen, Outcome.idle]
  have present : staged.get? second = some ⟨.int secondHeld, .readWrite⟩ :=
    (get?_withValue_of_ne apart.symm _).trans secondPresent
  have following := fun respects : ¬store.BreaksLimits first one =>
    run_int_assignment ((consistent.withValue_int_iff firstPresent one).mpr respects) present
      secondDigits
  rw [both, succeeds]
  constructor
  · refine and_congr_right fun respects => ?_
    rw [writes respects]
    exact (following respects).1
  · rintro ⟨respects, succeeded⟩
    rw [writes respects] at succeeded
    show ((store.run (assignment first firstText)).state.run _).state = _
    rw [writes respects]
    exact (following respects).2 ((following respects).1.mp succeeded)

/-- **A window is moved to any other one by assigning its ends in a right order.** The store is
consistent, both ends are integers that may be written, and the texts, such as the decimal ones
(`Text.readInt64_writeInt64`), are read as the ends of a window that is not inverted. Assigning the
lower end first succeeds exactly if it is not above the present upper end, and assigning the upper
end first exactly if it is not below the present lower end. One of the two is the case, and
whichever succeeds replaces the values of the two ends and nothing else. -/
theorem window_moved_in_some_order {store : Store} (consistent : store.IsConsistent)
    {min max lower upper : Int64} {lowerText upperText : String}
    (minHeld : store.get? Key.minTilt = some ⟨.int min, .readWrite⟩)
    (maxHeld : store.get? Key.maxTilt = some ⟨.int max, .readWrite⟩)
    (lowerDigits : Text.readInt64 lowerText.toList = .ok lower)
    (upperDigits : Text.readInt64 upperText.toList = .ok upper) (ordered : lower ≤ upper) :
    let lowerFirst := Outcome.runAll run store
      [assignment Key.minTilt lowerText, assignment Key.maxTilt upperText]
    let upperFirst := Outcome.runAll run store
      [assignment Key.maxTilt upperText, assignment Key.minTilt lowerText]
    let moved := (store.withValue Key.minTilt (.int lower)).withValue Key.maxTilt (.int upper)
    (lowerFirst.succeeded = true ↔ lower ≤ max) ∧ (upperFirst.succeeded = true ↔ min ≤ upper) ∧
      (lower ≤ max ∨ min ≤ upper) ∧
      (lowerFirst.succeeded = true → lowerFirst.state = moved) ∧
      (upperFirst.succeeded = true → upperFirst.state = moved) := by
  intro lowerFirst upperFirst moved
  have apart : Key.minTilt ≠ Key.maxTilt := by decide
  have minInt : store.int Key.minTilt = .ok min := (store.int_eq_ok_iff _ _).mpr ⟨_, minHeld⟩
  have maxInt : store.int Key.maxTilt = .ok max := (store.int_eq_ok_iff _ _).mpr ⟨_, maxHeld⟩
  have window : min ≤ max := (store.isConsistent_iff.mp consistent).1 min max minInt maxInt
  obtain ⟨lowerSucceeds, lowerMoves⟩ :=
    runAll_int_assignments consistent apart minHeld maxHeld lowerDigits upperDigits
  obtain ⟨upperSucceeds, upperMoves⟩ :=
    runAll_int_assignments consistent apart.symm maxHeld minHeld upperDigits lowerDigits
  rw [breaksLimits_minTilt_iff maxInt, breaksLimits_maxTilt_iff (int_withValue_self minHeld lower),
    Int64.not_lt, Int64.not_lt] at lowerSucceeds
  rw [breaksLimits_maxTilt_iff minInt, breaksLimits_minTilt_iff (int_withValue_self maxHeld upper),
    Int64.not_lt, Int64.not_lt] at upperSucceeds
  refine ⟨?lowerFirst, ?upperFirst, ?either, lowerMoves, ?moved⟩
  case lowerFirst => exact lowerSucceeds.trans (and_iff_left ordered)
  case upperFirst => exact upperSucceeds.trans (and_iff_left ordered)
  case either =>
    rw [Int64.le_iff_toInt_le] at window ordered
    rw [Int64.le_iff_toInt_le, Int64.le_iff_toInt_le]
    omega
  case moved =>
    intro succeeded
    exact (upperMoves succeeded).trans (withValue_comm store apart.symm _ _)

/-- From the window of the delivered store to one above it only the upper end can be assigned
first. -/
theorem window_moved_upper_end_first :
    let lowerFirst := Outcome.runAll run defaults
      [assignment Key.minTilt "200", assignment Key.maxTilt "300"]
    let upperFirst := Outcome.runAll run defaults
      [assignment Key.maxTilt "300", assignment Key.minTilt "200"]
    lowerFirst.succeeded = false ∧ upperFirst.succeeded = true ∧
      upperFirst.state =
        (defaults.withValue Key.minTilt (.int 200)).withValue Key.maxTilt (.int 300) := by
  intro lowerFirst upperFirst
  obtain ⟨below, above, _, _, moved⟩ :=
    window_moved_in_some_order isConsistent_defaults (show defaults.get? _ = some ⟨.int 0, _⟩ from rfl)
      (show defaults.get? _ = some ⟨.int 100, _⟩ from rfl)
      (show Text.readInt64 "200".toList = .ok 200 from rfl)
      (show Text.readInt64 "300".toList = .ok 300 from rfl) (by decide)
  have succeeded : upperFirst.succeeded = true := above.mpr (by decide)
  exact ⟨Bool.eq_false_iff.mpr fun wrong => absurd (below.mp wrong) (by decide), succeeded,
    moved succeeded⟩

end TiltMenu.Store
