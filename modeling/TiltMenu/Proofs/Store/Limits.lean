import TiltMenu.Proofs.Menu.Schema

/-!
# Writing a limit of the tilt

The three limits of the tilt are the ends of its window and its step. A consistent store stays so
unless one of them is set to an integer that breaks the limits (`BreaksLimits`,
`IsConsistent.withValue_int_iff`): a lower end above the upper end, an upper end below the lower
end, or a step that is not positive.

In a store that follows the schema the limits are integers that may be written. There a `setdb`
with such a value is the only command line that is read as a request and not granted
(`FollowsSchema.exists_inadmissible_iff`).
-/

set_option autoImplicit false

namespace TiltMenu.Store

/-- Writing the value under the key makes the tilt parameters inconsistent. -/
def BreaksLimits (store : Store) (key : String) (value : Int64) : Prop :=
  (key = Key.minTilt ∧ ∃ max, store.int Key.maxTilt = .ok max ∧ max < value) ∨
    (key = Key.maxTilt ∧ ∃ min, store.int Key.minTilt = .ok min ∧ value < min) ∨
      (key = Key.tiltStep ∧ value ≤ 0)

/-! ## Limits -/

theorem breaksLimits_minTilt_iff {store : Store} {max value : Int64}
    (upper : store.int Key.maxTilt = .ok max) :
    store.BreaksLimits Key.minTilt value ↔ max < value := by
  have apartMax : Key.minTilt ≠ Key.maxTilt := by decide
  have apartStep : Key.minTilt ≠ Key.tiltStep := by decide
  simp [BreaksLimits, upper, apartMax, apartStep]

theorem breaksLimits_maxTilt_iff {store : Store} {min value : Int64}
    (lower : store.int Key.minTilt = .ok min) :
    store.BreaksLimits Key.maxTilt value ↔ value < min := by
  have apartMin : Key.maxTilt ≠ Key.minTilt := by decide
  have apartStep : Key.maxTilt ≠ Key.tiltStep := by decide
  simp [BreaksLimits, lower, apartMin, apartStep]

/-- Writing a text under a key that holds one keeps any store consistent: no limit is a text. -/
theorem isConsistent_withValue_text {store : Store} {key content : String} {access : Access}
    (consistent : store.IsConsistent) (present : store.get? key = some ⟨.text content, access⟩)
    (raw : String) : (store.withValue key (.text raw)).IsConsistent := by
  have kept : ∀ limit number, (store.withValue key (.text raw)).int limit = .ok number →
      store.int limit = .ok number := by
    intro limit number holds
    by_cases same : limit = key
    · subst same
      obtain ⟨_, found⟩ := (int_eq_ok_iff _ _ _).mp holds
      rw [get?_withValue_self, present] at found
      cases found
    · rwa [int_withValue_of_ne same] at holds
  rw [isConsistent_iff] at consistent ⊢
  obtain ⟨ordered, positive⟩ := consistent
  constructor
  · intro min max lower upper
    exact ordered min max (kept _ _ lower) (kept _ _ upper)
  · intro step grid
    exact positive step (kept _ _ grid)

/-- **Writing an integer keeps a store consistent unless it breaks the limits.** -/
theorem IsConsistent.withValue_int_iff {store : Store} (consistent : store.IsConsistent)
    {key : String} {held : Parameter} (present : store.get? key = some held) (value : Int64) :
    (store.withValue key (.int value)).IsConsistent ↔ ¬ store.BreaksLimits key value := by
  have written := int_withValue_self present value
  have kept : ∀ other, other ≠ key →
      (store.withValue key (.int value)).int other = store.int other :=
    fun _ apart => int_withValue_of_ne apart (.int value)
  obtain ⟨ordered, positive⟩ := store.isConsistent_iff.mp consistent
  rw [isConsistent_iff]
  constructor
  · rintro ⟨newOrdered, newPositive⟩
    rintro (⟨rfl, max, upper, above⟩ | ⟨rfl, min, lower, below⟩ | ⟨rfl, small⟩)
    · exact Int64.not_lt.mpr (newOrdered _ _ written ((kept _ (by decide)).trans upper)) above
    · exact Int64.not_lt.mpr (newOrdered _ _ ((kept _ (by decide)).trans lower) written) below
    · exact Int64.not_lt.mpr small (newPositive _ written)
  · intro respects
    refine ⟨?window, ?step⟩
    case window =>
      intro min max lower upper
      by_cases atMin : key = Key.minTilt
      · subst atMin
        cases written.symm.trans lower
        rw [kept _ (by decide)] at upper
        exact Int64.not_lt.mp fun above => respects (.inl ⟨rfl, max, upper, above⟩)
      · rw [kept _ (Ne.symm atMin)] at lower
        by_cases atMax : key = Key.maxTilt
        · subst atMax
          cases written.symm.trans upper
          exact Int64.not_lt.mp fun below => respects (.inr (.inl ⟨rfl, min, lower, below⟩))
        · rw [kept _ (Ne.symm atMax)] at upper
          exact ordered min max lower upper
    case step =>
      intro step grid
      by_cases atStep : key = Key.tiltStep
      · subst atStep
        cases written.symm.trans grid
        exact Int64.not_le.mp fun small => respects (.inr (.inr ⟨rfl, small⟩))
      · rw [kept _ (Ne.symm atStep)] at grid
        exact positive step grid

namespace FollowsSchema

variable {store : Store}

/-- A key that is delivered as an integer to be written holds one. -/
theorem exists_writable_int (follows : store.FollowsSchema) {key : String} {number : Int64}
    (known : defaults.get? key = some ⟨.int number, .readWrite⟩) :
    ∃ held, store.get? key = some ⟨.int held, .readWrite⟩ := by
  obtain ⟨⟨value, access⟩, present, kept⟩ := follows.exists_held known
  have writable : access = .readWrite := kept.access
  cases value with
  | int held => exact ⟨held, writable ▸ present⟩
  | text content => exact absurd kept.sameType (by simp [Value.sameType])

/-- The key of a value that breaks the limits holds an integer that may be written. -/
theorem exists_held_of_breaksLimits (follows : store.FollowsSchema) {key : String}
    {value : Int64} (breaks : store.BreaksLimits key value) :
    ∃ held, store.get? key = some ⟨.int held, .readWrite⟩ := by
  rcases breaks with ⟨rfl, _⟩ | ⟨rfl, _⟩ | ⟨rfl, _⟩
  · exact follows.exists_writable_int rfl
  · exact follows.exists_writable_int rfl
  · exact follows.exists_writable_int rfl

end FollowsSchema

/-! ## Requests that are not admissible -/

/-- The command line is a `setdb` with the text of an integer that breaks the limits. -/
def WritesBrokenLimit (store : Store) (commandLine : CommandLine) : Prop :=
  ∃ key raw value, commandLine = [Verb.set.name, key, raw] ∧
    Text.readInt64 raw.toList = .ok value ∧ store.BreaksLimits key value

/-- A value for a limit that breaks it is read as a value for that limit. -/
theorem FollowsSchema.parseValue_of_breaksLimits {store : Store} (follows : store.FollowsSchema)
    {key raw : String} {value : Int64} (digits : Text.readInt64 raw.toList = .ok value)
    (breaks : store.BreaksLimits key value) : store.parseValue key raw = .ok (.int value) := by
  obtain ⟨held, present⟩ := follows.exists_held_of_breaksLimits breaks
  simp only [parseValue, present, digits]

/-- **A command line is read as a request that is not admissible exactly if it writes a
value that breaks the limits.** -/
theorem FollowsSchema.exists_inadmissible_iff {store : Store} (follows : store.FollowsSchema)
    (commandLine : CommandLine) :
    (∃ request, Request.parse store commandLine = .ok request ∧ ¬ request.Admissible store) ↔
      store.WritesBrokenLimit commandLine := by
  constructor
  · rintro ⟨request, read, inadmissible⟩
    have way := Request.reads store commandLine
    rw [read] at way
    cases way with
    | get known present => exact absurd trivial inadmissible
    | list known => exact absurd trivial inadmissible
    | reset known => exact absurd trivial inadmissible
    | @set name key raw value known parsed =>
      have named : name = Verb.set.name := (Verb.name_of_ofName? known).symm
      subst named
      have reading := store.readsValue key raw
      rw [parsed] at reading
      cases reading with
      | text present =>
        exact absurd (isConsistent_withValue_text follows.consistent present raw) inadmissible
      | int present digits =>
        refine ⟨key, raw, _, rfl, digits, ?_⟩
        exact Classical.byContradiction fun respects =>
          inadmissible ((follows.consistent.withValue_int_iff present _).mpr respects)
  · rintro ⟨key, raw, value, rfl, digits, breaks⟩
    obtain ⟨held, present⟩ := follows.exists_held_of_breaksLimits breaks
    have parsed := follows.parseValue_of_breaksLimits digits breaks
    have read : Request.parse store (assignment key raw) = .ok (.set key (.int value)) := by
      rw [parse_assignment, parsed]
      rfl
    exact ⟨_, read, fun consistent =>
      (follows.consistent.withValue_int_iff present value).mp consistent breaks⟩

/-- A request that was read fails exactly if it breaks a limit. -/
theorem FollowsSchema.run_failed_iff {store : Store} (follows : store.FollowsSchema)
    {commandLine : CommandLine} {request : Request}
    (read : Request.parse store commandLine = .ok request) :
    (store.run commandLine).succeeded = false ↔ store.WritesBrokenLimit commandLine := by
  rw [← follows.exists_inadmissible_iff, ← Bool.not_eq_true, run_succeeded_iff, read]
  simp

end TiltMenu.Store
