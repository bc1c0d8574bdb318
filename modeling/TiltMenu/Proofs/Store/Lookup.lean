import TiltMenu.Store.Basic

/-!
# A store as a map

A store is determined by what its keys hold (`eq_of_get?`). The two ways in which a store
changes are described by their lookups: an insertion changes the parameter of one key
(`get?_insert`), and `withValue` changes the value of one key that is there and nothing
else about it (`get?_withValue`).

Consistency is a condition on three lookups (`isConsistent_iff`).
-/

set_option autoImplicit false

namespace TiltMenu.Store

/-! ## Entries and lookups -/

/-- Looking up compares the key with the first one and goes on behind it. -/
theorem lookup_cons_eq (key held : String) (parameter : Parameter)
    (rest : List (String × Parameter)) :
    ((held, parameter) :: rest).lookup key =
      if key = held then some parameter else rest.lookup key := by
  rw [List.lookup_cons]
  by_cases same : key = held
  · simp [same]
  · simp [same, beq_eq_false_iff_ne.mpr same]

/-- A list in increasing order of its keys is read off by looking up. -/
theorem mem_iff_lookup {entries : List (String × Parameter)}
    (sorted : Sorted.Increasing Prod.fst entries) (key : String) (parameter : Parameter) :
    (key, parameter) ∈ entries ↔ entries.lookup key = some parameter := by
  induction entries with
  | nil => simp
  | cons first rest ih =>
    obtain ⟨held, holding⟩ := first
    have above := (List.pairwise_cons.mp sorted).1
    have tail := (List.pairwise_cons.mp sorted).2
    rw [List.mem_cons, ih tail, lookup_cons_eq]
    by_cases same : key = held
    · subst same
      -- The key does not come a second time, so the rest of the list does not hold it.
      have absent : rest.lookup key = none := by
        rw [List.lookup_eq_none_iff]
        intro entry member
        simpa using fun equal => String.lt_irrefl _ (equal ▸ above entry member)
      simp [absent, eq_comm]
    · simp [same]

theorem mem_entries_iff (store : Store) (key : String) (parameter : Parameter) :
    (key, parameter) ∈ store.entries ↔ store.get? key = some parameter :=
  mem_iff_lookup store.increasing key parameter

/-- **Stores whose keys hold the same are equal.** -/
theorem eq_of_get? {left right : Store} (same : ∀ key, left.get? key = right.get? key) :
    left = right := by
  refine Store.ext (Sorted.eq_of_mem_iff left.increasing right.increasing fun entry => ?_)
  rw [left.mem_entries_iff, right.mem_entries_iff, same]

/-! ## Inserting -/

theorem lookup_insert (key other : String) (parameter : Parameter)
    (entries : List (String × Parameter)) :
    (Sorted.insert Prod.fst (key, parameter) entries).lookup other =
      if other = key then some parameter else entries.lookup other := by
  induction entries with
  | nil => exact lookup_cons_eq other key parameter []
  | cons first rest ih =>
    obtain ⟨held, holding⟩ := first
    simp only [Sorted.insert]
    split
    · rw [lookup_cons_eq]
    · split
      · next taken =>
        subst taken
        rw [lookup_cons_eq, lookup_cons_eq]
        split <;> rfl
      · next apart =>
        rw [lookup_cons_eq, lookup_cons_eq, ih]
        by_cases same : other = key
        · subst same
          rw [if_neg apart]
          simp
        · simp only [if_neg same]

theorem get?_insert (store : Store) (key other : String) (parameter : Parameter) :
    (store.insert key parameter).get? other =
      if other = key then some parameter else store.get? other :=
  lookup_insert key other parameter store.entries

/-! ## Replacing a value -/

/-- The store with another value under a key, if it has the key. The access of the key and
every other entry stay as they are. -/
def withValue (store : Store) (key : String) (value : Value) : Store where
  entries := store.entries.map fun entry =>
    if entry.1 = key then (entry.1, { entry.2 with value := value }) else entry
  increasing := by
    refine List.pairwise_map.mpr (store.increasing.imp ?_)
    intro first second below
    have kept : ∀ entry : String × Parameter,
        (if entry.1 = key then (entry.1, { entry.2 with value := value }) else entry).1 =
          entry.1 := by
      intro entry
      split <;> rfl
    rw [kept, kept]
    exact below

theorem get?_withValue (store : Store) (key other : String) (value : Value) :
    (store.withValue key value).get? other =
      if other = key then (store.get? key).map fun held => { held with value := value }
      else store.get? other := by
  show (store.entries.map fun entry =>
      if entry.1 = key then (entry.1, { entry.2 with value := value }) else entry).lookup other =
    if other = key then (store.entries.lookup key).map fun held => { held with value := value }
    else store.entries.lookup other
  induction store.entries with
  | nil => simp
  | cons first rest ih =>
    obtain ⟨held, holding⟩ := first
    rw [List.map_cons, lookup_cons_eq key, lookup_cons_eq other held holding]
    by_cases here : held = key
    · subst here
      rw [if_pos rfl, if_pos rfl, lookup_cons_eq, ih]
      split <;> rfl
    · rw [if_neg here, if_neg (Ne.symm here), lookup_cons_eq, ih]
      by_cases same : other = key
      · subst same
        simp only [if_neg (Ne.symm here), if_pos]
      · simp only [if_neg same]

@[simp]
theorem get?_withValue_self (store : Store) (key : String) (value : Value) :
    (store.withValue key value).get? key =
      (store.get? key).map fun held => { held with value := value } := by
  simp [get?_withValue]

theorem get?_withValue_of_ne {store : Store} {key other : String} (apart : other ≠ key)
    (value : Value) : (store.withValue key value).get? other = store.get? other := by
  simp [get?_withValue, apart]

/-- Putting a parameter of the same access under a key that is there replaces its value. -/
theorem insert_eq_withValue {store : Store} {key : String} {held : Parameter}
    (present : store.get? key = some held) (value : Value) :
    store.insert key { held with value := value } = store.withValue key value := by
  apply eq_of_get?
  intro other
  rw [get?_insert, get?_withValue, present]
  rfl

/-- Of two values written under one key the second stays. -/
theorem withValue_withValue (store : Store) (key : String) (first second : Value) :
    (store.withValue key first).withValue key second = store.withValue key second := by
  apply eq_of_get?
  intro other
  by_cases same : other = key
  · subst same
    simp [Option.map_map, Function.comp_def]
  · simp only [get?_withValue_of_ne same]

/-- Values under different keys may be written in either order. -/
theorem withValue_comm (store : Store) {first second : String} (apart : first ≠ second)
    (left right : Value) :
    (store.withValue first left).withValue second right =
      (store.withValue second right).withValue first left := by
  apply eq_of_get?
  intro other
  simp only [get?_withValue]
  by_cases same : other = first
  · subst same
    simp [apart]
  · simp [same, apart.symm]

/-- Writing the value that a key holds changes nothing. -/
theorem withValue_of_held {store : Store} {key : String} {held : Parameter}
    (present : store.get? key = some held) : store.withValue key held.value = store := by
  apply eq_of_get?
  intro other
  by_cases same : other = key
  · subst same
    rw [get?_withValue_self, present]
    rfl
  · exact get?_withValue_of_ne same _

/-! ## Integers and consistency -/

theorem int_eq_ok_iff (store : Store) (key : String) (number : Int64) :
    store.int key = .ok number ↔ ∃ access, store.get? key = some ⟨.int number, access⟩ := by
  unfold int
  split <;> simp_all

theorem int?_eq_some_iff (store : Store) (key : String) (number : Int64) :
    store.int? key = some number ↔ store.int key = .ok number := by
  unfold int?
  cases store.int key <;> simp [Except.toOption]

theorem int_withValue_of_ne {store : Store} {key other : String} (apart : other ≠ key)
    (value : Value) : (store.withValue key value).int other = store.int other := by
  rw [int, int, get?_withValue_of_ne apart]

theorem int_withValue_self {store : Store} {key : String} {held : Parameter}
    (present : store.get? key = some held) (number : Int64) :
    (store.withValue key (.int number)).int key = .ok number := by
  rw [int, get?_withValue_self, present]
  rfl

theorem windowFault?_eq_none_iff (store : Store) :
    store.windowFault? = none ↔
      ∀ min max, store.int Key.minTilt = .ok min → store.int Key.maxTilt = .ok max →
        min ≤ max := by
  simp only [← int?_eq_some_iff]
  unfold windowFault?
  split
  · next min max lower upper => simp [lower, upper]
  · next absent =>
    simp only [true_iff]
    intro min max lower upper
    exact absurd upper (absent min max lower)

theorem stepFault?_eq_none_iff (store : Store) :
    store.stepFault? = none ↔ ∀ step, store.int Key.tiltStep = .ok step → 0 < step := by
  simp only [← int?_eq_some_iff]
  unfold stepFault?
  split
  · next step present => simp [present]
  · next absent => simp [absent]

/-- A store is consistent if neither its window nor its step has a fault. -/
theorem isConsistent_iff_faults (store : Store) :
    store.IsConsistent ↔ store.windowFault? = none ∧ store.stepFault? = none := by
  unfold IsConsistent inconsistency?
  cases store.windowFault? <;> simp

/-- **A store is consistent when its window is not inverted and its step is positive.**
What is absent or no integer does not count. -/
theorem isConsistent_iff (store : Store) :
    store.IsConsistent ↔
      (∀ min max, store.int Key.minTilt = .ok min → store.int Key.maxTilt = .ok max →
        min ≤ max) ∧
      ∀ step, store.int Key.tiltStep = .ok step → 0 < step := by
  rw [isConsistent_iff_faults, windowFault?_eq_none_iff, stepFault?_eq_none_iff]

end TiltMenu.Store
