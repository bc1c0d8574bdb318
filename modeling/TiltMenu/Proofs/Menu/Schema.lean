import TiltMenu.Menu.Rehearsal
import TiltMenu.Proofs.Menu.Dispatch
import TiltMenu.Proofs.Menu.Operation
import TiltMenu.Proofs.Store.Transaction

/-!
# The schema of the store

The store of a device as it is delivered fixes a schema: which keys there are, the type and
the access of each, and the values of the keys that may not be written. A store that follows
the schema and is consistent has a tilt window that is not inverted and a positive step
(`FollowsSchema.exists_limits`).

A menu changes its store only by running command lines on it, and a run either leaves the
store alone or takes the step of a request that was read against it. Every such step keeps
the schema (`followsSchema_result`), whatever the validators accept, so the schema holds in
every history of the menu.
-/

set_option autoImplicit false

namespace TiltMenu

namespace Store

/-! ## The schema -/

/-- A parameter keeps to the one that is delivered under its key. -/
structure Parameter.KeepsTo (held delivered : Parameter) : Prop where
  sameType : delivered.value.sameType held.value = true
  access : held.access = delivered.access
  unwritten : delivered.access = .readOnly → held.value = delivered.value

/-- The store follows the schema of the store that is delivered, and is consistent. -/
structure FollowsSchema (store : Store) : Prop where
  keys : ∀ key, (∃ held, store.get? key = some held) ↔ key ∈ Key.all
  keeps : ∀ key held delivered, store.get? key = some held →
    defaults.get? key = some delivered → held.KeepsTo delivered
  consistent : store.IsConsistent

theorem Value.sameType_refl (value : Value) : value.sameType value = true := by
  cases value <;> rfl

theorem Value.sameType_trans {first second third : Value}
    (left : first.sameType second = true) (right : second.sameType third = true) :
    first.sameType third = true := by
  cases first <;> cases second <;> cases third <;> simp_all [Value.sameType]

theorem Parameter.keepsTo_refl (parameter : Parameter) : parameter.KeepsTo parameter where
  sameType := parameter.value.sameType_refl
  access := rfl
  unwritten := fun _ => rfl

/-- The keys that are delivered are those of the documentation. -/
theorem keys_defaults (key : String) :
    (∃ held, defaults.get? key = some held) ↔ key ∈ Key.all := by
  have listed : key ∈ Key.all ↔ key ∈ defaults.entries.map Prod.fst :=
    (show Key.all.Perm (defaults.entries.map Prod.fst) by decide).mem_iff
  rw [listed, List.mem_map]
  constructor
  · rintro ⟨held, present⟩
    exact ⟨(key, held), (defaults.mem_entries_iff key held).mpr present, rfl⟩
  · rintro ⟨⟨same, held⟩, member, rfl⟩
    exact ⟨held, (defaults.mem_entries_iff same held).mp member⟩

theorem followsSchema_defaults : defaults.FollowsSchema where
  keys := keys_defaults
  keeps := by
    intro key held delivered present same
    cases present.symm.trans same
    exact held.keepsTo_refl
  consistent := isConsistent_defaults

namespace FollowsSchema

variable {store : Store}

/-- A key that is delivered is there and keeps to what was delivered. -/
theorem exists_held (follows : store.FollowsSchema) {key : String} {delivered : Parameter}
    (known : defaults.get? key = some delivered) :
    ∃ held, store.get? key = some held ∧ held.KeepsTo delivered := by
  obtain ⟨held, present⟩ := (follows.keys key).mpr ((keys_defaults key).mp ⟨delivered, known⟩)
  exact ⟨held, present, follows.keeps key held delivered present known⟩

/-- A key that may not be written holds what was delivered. -/
theorem get?_of_readOnly (follows : store.FollowsSchema) {key : String} {value : Value}
    (known : defaults.get? key = some ⟨value, .readOnly⟩) :
    store.get? key = defaults.get? key := by
  obtain ⟨held, present, kept⟩ := follows.exists_held known
  obtain ⟨heldValue, heldAccess⟩ := held
  have sameValue : heldValue = value := kept.unwritten rfl
  have sameAccess : heldAccess = .readOnly := kept.access
  rw [present, known, sameValue, sameAccess]

/-- A key that is delivered with an integer holds an integer. -/
theorem exists_int (follows : store.FollowsSchema) {key : String} {number : Int64}
    (known : defaults.int key = .ok number) : ∃ held, store.int key = .ok held := by
  obtain ⟨access, delivered⟩ := (defaults.int_eq_ok_iff key number).mp known
  obtain ⟨⟨value, heldAccess⟩, present, kept⟩ := follows.exists_held delivered
  cases value with
  | int held => exact ⟨held, (store.int_eq_ok_iff key held).mpr ⟨heldAccess, present⟩⟩
  | text content => exact absurd kept.sameType (by simp [Value.sameType])

/-- The three tilt parameters are integers, the window is not inverted, and the step is
positive. -/
theorem exists_limits (follows : store.FollowsSchema) :
    ∃ min max step, store.int Key.minTilt = .ok min ∧ store.int Key.maxTilt = .ok max ∧
      store.int Key.tiltStep = .ok step ∧ min ≤ max ∧ 0 < step := by
  obtain ⟨min, lower⟩ := follows.exists_int (show defaults.int Key.minTilt = .ok 0 from rfl)
  obtain ⟨max, upper⟩ := follows.exists_int (show defaults.int Key.maxTilt = .ok 100 from rfl)
  obtain ⟨step, grid⟩ := follows.exists_int (show defaults.int Key.tiltStep = .ok 1 from rfl)
  obtain ⟨ordered, positive⟩ := store.isConsistent_iff.mp follows.consistent
  exact ⟨min, max, step, lower, upper, grid, ordered min max lower upper, positive step grid⟩

end FollowsSchema

/-! ## Runs keep the schema -/

/-- Writing a value of the right type to a key that may be written keeps the schema. -/
theorem followsSchema_withValue {store : Store} {key : String} {value : Value}
    (follows : store.FollowsSchema) (fits : (Request.set key value).Fits store)
    (consistent : (store.withValue key value).IsConsistent) :
    (store.withValue key value).FollowsSchema := by
  obtain ⟨held, present, sameType⟩ := fits
  refine ⟨?_, ?_, consistent⟩
  · intro other
    rw [← follows.keys other]
    by_cases same : other = key
    · subst same
      simp [present]
    · rw [get?_withValue_of_ne same]
  · intro other parameter delivered holding known
    by_cases same : other = key
    · subst same
      have kept := follows.keeps other _ delivered present known
      rw [get?_withValue_self, present] at holding
      cases holding
      refine ⟨Value.sameType_trans kept.sameType sameType, kept.access, ?_⟩
      -- The key was written, so it is not delivered as one that may only be read.
      intro readOnly
      have writable : Access.readWrite = delivered.access := kept.access
      rw [readOnly] at writable
      cases writable
    · rw [get?_withValue_of_ne same] at holding
      exact follows.keeps other parameter delivered holding known

/-- **The step of an admissible request keeps the schema.** -/
theorem followsSchema_result {store : Store} {request : Request} (follows : store.FollowsSchema)
    (fits : request.Fits store) (admissible : request.Admissible store) :
    (request.result store).FollowsSchema := by
  cases request with
  | get key => exact follows
  | set key value => exact followsSchema_withValue follows fits admissible
  | list => exact follows
  | reset => exact followsSchema_defaults

theorem isConsistent_result {store : Store} {request : Request}
    (consistent : store.IsConsistent) (admissible : request.Admissible store) :
    (request.result store).IsConsistent := by
  cases request with
  | get key => exact consistent
  | set key value => exact admissible
  | list => exact consistent
  | reset => exact isConsistent_defaults

theorem followsSchema_run (store : Store) (commandLine : CommandLine)
    (follows : store.FollowsSchema) : (store.run commandLine).state.FollowsSchema := by
  rcases store.state_run_cases commandLine with same | ⟨request, read, admissible, changed⟩
  · rw [same]
    exact follows
  · rw [changed]
    exact followsSchema_result follows (fits_of_parse read) admissible

theorem isConsistent_run (store : Store) (commandLine : CommandLine)
    (consistent : store.IsConsistent) : (store.run commandLine).state.IsConsistent := by
  rcases store.state_run_cases commandLine with same | ⟨request, _, admissible, changed⟩
  · rw [same]
    exact consistent
  · rw [changed]
    exact isConsistent_result consistent admissible

end Store

namespace Menu

variable {σ ν δ κ ρ : Type} [Executor σ κ] [Validator ν κ] [Validator δ ρ]

/-! ## Histories keep the schema -/

/-- A property of the store that every run keeps lasts: nothing else changes the store. -/
theorem lasting_of_run {property : Store → Prop}
    (kept : ∀ store commandLine, property store → property (store.run commandLine).state) :
    Lasting fun menu : Menu σ ν δ => property menu.store where
  dispatch := by
    intro menu commandLine holds
    have way := menu.dispatches commandLine
    generalize menu.dispatch commandLine = outcome at way ⊢
    cases way with
    | empty => exact holds
    | help => exact holds
    | exit => exact holds
    | unknown => exact holds
    | storeRejected => exact holds
    | storeRun => exact kept menu.store _ holds
    | deviceRejected => exact holds
    | deviceRun => exact holds
  families := fun _ _ holds => holds

/-- **The store keeps its schema and its consistency in every history.** Whatever the
validators accept, whatever the executor does and whichever operations the owner calls, a
menu that began with the delivered store has the keys that were delivered, each with its
type and its access, the values that may not be written, and a window and a step that are
in order. A menu that began with any consistent store has a consistent store. -/
theorem history_keeps_schema (menu : Menu σ ν δ) (operations : List (Operation σ)) :
    (menu.store = .defaults →
      (menu.history operations).store.FollowsSchema ∧
      (menu.history operations).store.get? Store.Key.serialNumber =
        Store.defaults.get? Store.Key.serialNumber ∧
      (menu.history operations).store.get? Store.Key.deviceType =
        Store.defaults.get? Store.Key.deviceType ∧
      ∃ min max step,
        (menu.history operations).store.int Store.Key.minTilt = .ok min ∧
        (menu.history operations).store.int Store.Key.maxTilt = .ok max ∧
        (menu.history operations).store.int Store.Key.tiltStep = .ok step ∧
        min ≤ max ∧ 0 < step) ∧
    (menu.store.IsConsistent → (menu.history operations).store.IsConsistent) := by
  constructor
  · intro delivered
    have first : menu.store.FollowsSchema := delivered ▸ Store.followsSchema_defaults
    have follows : (menu.history operations).store.FollowsSchema :=
      (lasting_of_run Store.followsSchema_run).history first operations fun _ _ _ holds => holds
    exact ⟨follows, follows.get?_of_readOnly rfl, follows.get?_of_readOnly rfl,
      follows.exists_limits⟩
  · intro consistent
    exact (lasting_of_run Store.isConsistent_run).history consistent operations
      fun _ _ _ holds => holds

/-- A menu whose validators accept everything, after writing one limit, failing to write a
key that may not be written and failing to invert the window. -/
theorem schema_kept_in_rehearsal :
    let menu := Rehearsal.menu "rehearsal" .defaults [] true true
    let operations : List (Operation Rehearsal.ScriptedExecutor) :=
      [.storeNames ["setdb"], .dispatch ["setdb", "max_tilt", "50"],
        .batch [["setdb", "serial_number", "X"], ["setdb", "min_tilt", "60"]],
        .control fun executor => { executor with executions := 7 }]
    (menu.history operations).store.int Store.Key.maxTilt = .ok 50 ∧
      (menu.history operations).store.FollowsSchema ∧
      (menu.history operations).store.IsConsistent := by
  intro menu operations
  have kept := history_keeps_schema menu operations
  exact ⟨rfl, (kept.1 rfl).1, kept.2 Store.isConsistent_defaults⟩

end Menu

end TiltMenu
