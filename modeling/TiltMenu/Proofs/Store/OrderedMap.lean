import Mathlib.Data.List.Dedup
import Mathlib.Data.List.Forall2
import TiltMenu.Proofs.Log.Bracket
import TiltMenu.Proofs.Store.Journal
import TiltMenu.Proofs.Store.Json

/-!
# The store as an ordered map

After any history of changes a store is a finite map whose keys are in order: its entries are the
keys that were put in since it was last replaced, each of them once and by increasing UTF-8 form,
and they are shown and written in that order (`Lists`). A key has what was written for it last
(`Finds`). Setting a value changes that value or nothing (`SetsOneValue`), and a text that is read
as the value of a key can be set (`ReadsAsItSets`).

The main statement is `store_is_ordered_map`.
-/

set_option autoImplicit false

namespace TiltMenu.Store

/-! ## Keys -/

/-- The keys of a store in the order of its entries. -/
def keys (store : Store) : List String := store.entries.map Prod.fst

theorem mem_keys_iff (store : Store) (key : String) : key ∈ store.keys ↔ store.get? key ≠ none := by
  rw [keys, List.mem_map, Option.ne_none_iff_exists']
  constructor
  · rintro ⟨⟨_, held⟩, member, rfl⟩
    exact ⟨held, (store.mem_entries_iff _ held).mp member⟩
  · rintro ⟨held, present⟩
    exact ⟨(key, held), (store.mem_entries_iff key held).mpr present, rfl⟩

theorem nodup_keys (store : Store) : store.keys.Nodup := by
  refine List.pairwise_map.mpr (store.increasing.imp ?_)
  intro first second below same
  exact String.lt_irrefl _ (same ▸ below)

theorem get_eq_ok_iff (store : Store) (key : String) (parameter : Parameter) :
    store.get key = .ok parameter ↔ store.get? key = some parameter := by
  unfold get
  cases store.get? key <;> simp

theorem get_eq_keyNotFound_iff (store : Store) (key : String) :
    store.get key = .error (.keyNotFound key) ↔ store.get? key = none := by
  unfold get
  cases store.get? key <;> simp

/-! ## What is found -/

namespace Holds

variable {journal : List Write} {store : Store}

theorem get?_eq_some_iff (holds : Holds journal store) (key : String) (parameter : Parameter) :
    store.get? key = some parameter ↔
      last? (Write.valueOf? key) journal = some parameter.value ∧
        last? (Write.accessOf? key) journal = some parameter.access := by
  obtain ⟨value, access⟩ := parameter
  rw [← holds.value, ← holds.access]
  cases store.get? key with
  | none => simp
  | some held =>
    obtain ⟨heldValue, heldAccess⟩ := held
    simp

theorem get?_eq_none_iff (holds : Holds journal store) (key : String) :
    store.get? key = none ↔ key ∉ insertedKeys journal := by
  rw [← last?_accessOf?_eq_none_iff, ← holds.access, Option.map_eq_none_iff]

theorem mem_keys_iff (holds : Holds journal store) (key : String) :
    key ∈ store.keys ↔ key ∈ insertedKeys journal := by
  rw [Store.mem_keys_iff, Ne, holds.get?_eq_none_iff, not_not]

/-- The keys of the store are those that were put in, each once. -/
theorem keys_perm (holds : Holds journal store) :
    store.keys.Perm (insertedKeys journal).dedup := by
  refine (List.perm_ext_iff_of_nodup store.nodup_keys (List.nodup_dedup _)).mpr fun key => ?_
  rw [holds.mem_keys_iff, List.mem_dedup]

end Holds

/-- A key has what was written for it last, and it is missing if nothing was put in for it. -/
structure Finds (journal : List Write) (store : Store) : Prop where
  found : ∀ key parameter, store.get key = .ok parameter ↔
    last? (Write.valueOf? key) journal = some parameter.value ∧
      last? (Write.accessOf? key) journal = some parameter.access
  missing : ∀ key, store.get key = .error (.keyNotFound key) ↔ key ∉ insertedKeys journal

theorem Holds.finds {journal : List Write} {store : Store} (holds : Holds journal store) :
    store.Finds journal where
  found key parameter := by rw [get_eq_ok_iff, holds.get?_eq_some_iff]
  missing key := by rw [get_eq_keyNotFound_iff, holds.get?_eq_none_iff]

/-! ## What is listed -/

/-- The event shows an entry: its key, its value and whether it may be written. -/
structure ShowsEntry (entry : String × Parameter) (event : Log.Event) : Prop where
  level : event.level = .info
  message : event.message = some (entry.1 ++ " = " ++ entry.2.value.display)
  details : event.details =
    [("key", .text entry.1), ("value", .text entry.2.value.display),
      ("access", .text (match entry.2.access with
        | .readWrite => "ReadWrite"
        | .readOnly => "ReadOnly"))]

theorem showsEntry_listed (entry : String × Parameter) :
    ShowsEntry entry (listed entry.1 entry.2) where
  level := rfl
  message := rfl
  details := rfl

/-- The entries of the store are the keys that were put in, in order, wherever they are listed. -/
structure Lists (journal : List Write) (store : Store) : Prop where
  order : store.entries.Pairwise fun first second => Text.encode first.1 < Text.encode second.1
  /-- Every key that was put in is there once, and no other. -/
  once : ∀ key, store.keys.count key = if key ∈ insertedKeys journal then 1 else 0
  size : store.size = (insertedKeys journal).dedup.length
  /-- The command that lists the store shows the entries in their order, and nothing else. -/
  shown : ∃ opening lines closing,
    opening.Opens "run_database_command" ∧ closing.Closes "run_database_command" true ∧
      (store.run ["listdb"]).events = opening :: lines ++ [closing] ∧
      List.Forall₂ ShowsEntry store.entries lines
  /-- What is printed has the entries in their order. -/
  printed : store.dump = store.printed
  parsed : Json.parse? store.dump.toList =
    some (.object (store.entries.map fun entry => (some entry.1, entry.2.toJson)))
  /-- So has the compact text. -/
  written : Json.parse? store.serialize.toList =
    some (.object
      [(some "entries", .object (store.entries.map fun entry => (some entry.1, entry.2.toJson)))])

theorem Holds.lists {journal : List Write} {store : Store} (holds : Holds journal store) :
    store.Lists journal where
  order := store.increasing.imp Text.encode_lt_encode
  once key := by
    rw [store.nodup_keys.count]
    simp only [holds.mem_keys_iff]
  size := by
    rw [← holds.keys_perm.length_eq, keys, List.length_map]
    rfl
  shown :=
    have entries := List.forall₂_map_right_iff.mpr
      (List.forall₂_same.mpr fun entry _ => showsEntry_listed entry)
    ⟨_, _, _, ⟨rfl, rfl, rfl⟩, ⟨rfl, rfl, rfl⟩, rfl, entries⟩
  printed := store.dump_eq_printed
  parsed := store.parse?_dump
  written := by
    have spelled := Json.spells_write store.isTextual_toJson
    show Json.parse? store.serialize.toList = some store.toJson
    rw [serialize, String.toList_ofList]
    simpa using Json.parse?_of_spells Json.blank_nil spelled Json.blank_nil

/-! ## What is set -/

/-- A value is set if its key is there, may be written and has a value of that type. Then the value
of the key is another one and all else is as before; otherwise nothing changes. -/
structure SetsOneValue (store : Store) : Prop where
  succeeds_iff : ∀ key value, (∃ changed, store.set key value = .ok changed) ↔
    ∃ held : Value, store.get? key = some ⟨held, .readWrite⟩ ∧ held.sameType value = true
  written : ∀ key value changed, store.set key value = .ok changed →
    store.after (.set key value) = changed ∧ Rewritten store changed key value
  refused : ∀ key value fault, store.set key value = .error fault →
    store.after (.set key value) = store

theorem setsOneValue (store : Store) : store.SetsOneValue where
  succeeds_iff key value := by
    simp only [set_eq_ok_iff]
    exact ⟨fun ⟨_, fits, _⟩ => fits, fun fits => ⟨_, fits, rfl⟩⟩
  written key value changed success := by
    obtain ⟨fits, rfl⟩ := (store.set_eq_ok_iff key value changed).mp success
    exact ⟨by simp only [after, success], rewritten_withValue fits⟩
  refused key value fault failure := by simp only [after, failure]

/-- A text that is read as the value of a key can be set, and a key that is missing or may not be
written stands against reading and setting alike. -/
structure ReadsAsItSets (store : Store) : Prop where
  read : ∀ key raw value, store.parseValue key raw = .ok value →
    ∃ changed, store.set key value = .ok changed
  missing : ∀ key raw value, store.get? key = none →
    store.parseValue key raw = .error (.keyNotFound key) ∧
      store.set key value = .error (.keyNotFound key)
  readOnly : ∀ key raw value held, store.get? key = some ⟨held, .readOnly⟩ →
    store.parseValue key raw = .error (.readOnlyKey key) ∧
      store.set key value = .error (.readOnlyKey key)

theorem readsAsItSets (store : Store) : store.ReadsAsItSets where
  read key raw value success := ⟨_, set_eq_withValue (fits_of_parseValue success)⟩
  missing key raw value absent := by simp only [parseValue, set, absent, and_self]
  readOnly key raw value held present := by simp only [parseValue, set, present, and_self]

/-! ## After any history -/

/-- **The store is an ordered finite map.** After any changes, whatever they are and whether or not
they succeed, the store lists each key that was put in since it was last replaced once, by
increasing UTF-8 form, and has as many entries as there are such keys. It finds for each key the
value and the access that were written for it last. Setting a value replaces the value of a key that
is there, may be written and has a value of that type, and nothing else; otherwise it changes
nothing. What is read as a value for a key can be set, and a key that is missing or may not be
written stands against both in the same way. -/
theorem store_is_ordered_map (changes : List Change) :
    (history changes).Lists (journal changes) ∧ (history changes).Finds (journal changes) ∧
      (history changes).SetsOneValue ∧ (history changes).ReadsAsItSets :=
  have holds := holds_history changes
  ⟨holds.lists, holds.finds, setsOneValue _, readsAsItSets _⟩

end TiltMenu.Store
