import Mathlib.Data.List.Induction
import TiltMenu.Proofs.Menu.Announcement
import TiltMenu.Proofs.Menu.Operation

/-!
# Other names for the families

The names of the two families can be installed again and again between command lines, one family at
a time or both together. Of each family the names that were installed last count, and nothing else
does: not the names before them, not the other family, and not the command lines that were
dispatched, for these leave the names alone (`families_after`).

So after any history the setters hand back the sets that were installed last, every command line is
classified by these, and the order and the repetitions of the lists that were installed cannot be
seen (`last_installed_names_count`).
-/

set_option autoImplicit false

namespace TiltMenu

/-! ## Sets of names -/

namespace NameSet

/-- The set of a list has the names of the list. -/
theorem contains_ofList_iff (names : List String) (name : String) :
    (ofList names).contains name = true ↔ name ∈ names := by
  rw [contains, List.contains_iff_mem, ofList, Sorted.mem_ofList_id_iff]

/-- **Lists with the same names have the same set.** -/
theorem ofList_congr {left right : List String} (same : ∀ name, name ∈ left ↔ name ∈ right) :
    ofList left = ofList right := by
  have names : Sorted.ofList id left = Sorted.ofList id right := by
    refine Sorted.eq_of_mem_iff (ofList left).increasing (ofList right).increasing fun name => ?_
    rw [Sorted.mem_ofList_id_iff, Sorted.mem_ofList_id_iff, same]
  simp only [ofList, names]

end NameSet

namespace Families

/-- What a word is taken for when these are the names of the families. -/
structure Classifies (storeNames deviceNames : List String) (word : String) (family : Family) :
    Prop where
  store : family = .store ↔ word ∈ storeNames
  device : family = .device ↔ word ∉ storeNames ∧ word ∈ deviceNames
  help : family = .help ↔ word ∉ storeNames ∧ word ∉ deviceNames ∧ word = "help"
  exit : family = .exit ↔ word ∉ storeNames ∧ word ∉ deviceNames ∧ word = "exit"
  unknown : family = .unknown ↔
    word ∉ storeNames ∧ word ∉ deviceNames ∧ word ≠ "help" ∧ word ≠ "exit"

theorem classifies_ofList (storeNames deviceNames : List String) (word : String) :
    Classifies storeNames deviceNames word
      (classify ⟨.ofList storeNames, .ofList deviceNames⟩ word) := by
  have inStore := NameSet.contains_ofList_iff storeNames word
  have inDevice := NameSet.contains_ofList_iff deviceNames word
  unfold classify
  by_cases forStore : word ∈ storeNames
  · rw [if_pos (inStore.mpr forStore)]
    constructor <;> simp [forStore]
  · rw [if_neg (mt inStore.mp forStore)]
    by_cases forDevice : word ∈ deviceNames
    · rw [if_pos (inDevice.mpr forDevice)]
      constructor <;> simp [forStore, forDevice]
    · rw [if_neg (mt inDevice.mp forDevice)]
      by_cases asksHelp : word = "help"
      · subst asksHelp
        constructor <;> simp [Action.help, forStore, forDevice]
      · by_cases asksExit : word = "exit"
        · subst asksExit
          constructor <;> simp [Action.help, Action.exit, forStore, forDevice]
        · constructor <;> simp [Action.help, Action.exit, forStore, forDevice, asksHelp, asksExit]

end Families

namespace Menu

variable {σ ν δ κ ρ : Type}

/-! ## Installing names -/

namespace Operation

/-- The names that the operation installs in the store family, if it installs any. -/
def storeNames? : Operation σ → Option (List String)
  | .storeNames names => some names
  | .configure config => some config.storeCommands
  | _ => none

/-- The names that the operation installs in the device family, if it installs any. -/
def deviceNames? : Operation σ → Option (List String)
  | .deviceNames names => some names
  | .configure config => some config.deviceCommands
  | _ => none

/-- The families after the operation: what it installs takes the place of what was there. -/
def install (operation : Operation σ) (families : Families) : Families where
  store := (operation.storeNames?.map .ofList).getD families.store
  device := (operation.deviceNames?.map .ofList).getD families.device

end Operation

/-- The list that was installed last in a history, if any was. -/
def lastInstalled? (names? : Operation σ → Option (List String)) (operations : List (Operation σ)) :
    Option (List String) :=
  (operations.filterMap names?).getLast?

theorem lastInstalled?_concat (names? : Operation σ → Option (List String))
    (operations : List (Operation σ)) (last : Operation σ) :
    lastInstalled? names? (operations ++ [last]) =
      (names? last).or (lastInstalled? names? operations) := by
  rw [lastInstalled?, List.filterMap_append]
  cases installed : names? last with
  | none => simp [installed, lastInstalled?]
  | some names => simp [installed]

section Running

variable [Executor σ κ] [Validator ν κ] [Validator δ ρ]

/-- Dispatching any number of command lines leaves the names of the families alone. -/
theorem families_dispatches (menu : Menu σ ν δ) (commandLines : List CommandLine) :
    (menu.history (commandLines.map .dispatch)).families = menu.families := by
  induction commandLines generalizing menu with
  | nil => rfl
  | cons first rest ih =>
    exact (ih (menu.dispatch first).state).trans (menu.families_dispatch first)

/-- **An operation installs its names and leaves all others.** -/
theorem families_after (menu : Menu σ ν δ) (operation : Operation σ) :
    (menu.after operation).families = operation.install menu.families := by
  cases operation with
  | dispatch commandLine => exact menu.families_dispatch commandLine
  | batch commandLines =>
    rw [after_batch, families_dispatches]
    rfl
  | session source =>
    obtain ⟨commandLines, reached⟩ := exists_after_session menu source
    rw [reached, families_dispatches]
    rfl
  | sessionPart ask source count =>
    obtain ⟨commandLines, reached⟩ := exists_after_sessionPart ask menu source count
    rw [reached, families_dispatches]
    rfl
  | storeNames names => rfl
  | deviceNames names => rfl
  | configure config => rfl
  | control change => rfl

/-- **After a history each family has the names that were installed last**, or those of the
beginning if none were. -/
theorem families_history (menu : Menu σ ν δ) (operations : List (Operation σ)) :
    (menu.history operations).families =
      ⟨((lastInstalled? Operation.storeNames? operations).map .ofList).getD menu.families.store,
        ((lastInstalled? Operation.deviceNames? operations).map .ofList).getD
          menu.families.device⟩ := by
  induction operations using List.reverseRecOn with
  | nil => rfl
  | append_singleton operations last ih =>
    have step : menu.history (operations ++ [last]) = (menu.history operations).after last := by
      rw [history, List.foldl_append]
      rfl
    rw [step, families_after, ih, lastInstalled?_concat, lastInstalled?_concat, Operation.install]
    cases last.storeNames? <;> cases last.deviceNames? <;> rfl

/-! ## Menus that begin without names -/

/-- A menu put together from its parts. Its families have no names yet. -/
def ofParts (name : String) (store : Store) (executor : σ) (deviceValidator : ν)
    (storeValidator : δ) : Menu σ ν δ :=
  { name, store, executor, deviceValidator, storeValidator }

/-- A new stock menu is put together in this way. -/
example (name : String) (store : Store) : StockMenu.new name store = ofParts name store {} {} {} :=
  rfl

/-- The names that were installed last in the store family, none if there were none. -/
def lastStoreNames (operations : List (Operation σ)) : List String :=
  (lastInstalled? Operation.storeNames? operations).getD []

/-- The names that were installed last in the device family, none if there were none. -/
def lastDeviceNames (operations : List (Operation σ)) : List String :=
  (lastInstalled? Operation.deviceNames? operations).getD []

/-- The families of a menu that began without names are made of the lists installed last. -/
theorem families_history_ofParts (name : String) (store : Store) (executor : σ)
    (deviceValidator : ν) (storeValidator : δ) (operations : List (Operation σ)) :
    ((ofParts name store executor deviceValidator storeValidator).history operations).families =
      ⟨.ofList (lastStoreNames operations), .ofList (lastDeviceNames operations)⟩ := by
  rw [families_history, lastStoreNames, lastDeviceNames]
  cases lastInstalled? Operation.storeNames? operations <;>
    cases lastInstalled? Operation.deviceNames? operations <;> rfl

/-- **Only the names that were installed last count.** A menu is put together from any parts and
goes through any history. A setter then hands back the names that were last installed in its
family, none if there were none, and leaves the other family alone. A command line is taken for
what its first word is among the names installed last, those of the store before those of the
device and both before the actions; that is what the menu announces it by. Two histories that end
with the same names, in lists of any order and with any repetitions, classify every word alike and
show the same help. -/
theorem last_installed_names_count (name : String) (store : Store) (executor : σ)
    (deviceValidator : ν) (storeValidator : δ) (operations : List (Operation σ)) :
    let fresh := ofParts name store executor deviceValidator storeValidator
    let reached := fresh.history operations
    (∀ names,
      (∀ word, (reached.replaceStoreNames names).1.contains word = true ↔
        word ∈ lastStoreNames operations) ∧
      (reached.replaceStoreNames names).2.families.device = reached.families.device) ∧
    (∀ names,
      (∀ word, (reached.replaceDeviceNames names).1.contains word = true ↔
        word ∈ lastDeviceNames operations) ∧
      (reached.replaceDeviceNames names).2.families.store = reached.families.store) ∧
    (∀ word arguments,
      Families.Classifies (lastStoreNames operations) (lastDeviceNames operations) word
        (reached.families.classify word) ∧
      (reached.dispatch (word :: arguments)).events.head? =
        some (reached.announcement (word :: arguments))) ∧
    ∀ others : List (Operation σ),
      (∀ word, word ∈ lastStoreNames others ↔ word ∈ lastStoreNames operations) →
      (∀ word, word ∈ lastDeviceNames others ↔ word ∈ lastDeviceNames operations) →
      (fresh.history others).families.classify = reached.families.classify ∧
        (fresh.history others).families.helpText = reached.families.helpText := by
  intro fresh reached
  have families := families_history_ofParts name store executor deviceValidator storeValidator
  have now : reached.families = _ := families operations
  refine ⟨fun names => ⟨fun word => ?_, rfl⟩, fun names => ⟨fun word => ?_, rfl⟩, ?_, ?_⟩
  · show reached.families.store.contains word = true ↔ _
    rw [now, NameSet.contains_ofList_iff]
  · show reached.families.device.contains word = true ↔ _
    rw [now, NameSet.contains_ofList_iff]
  · intro word arguments
    refine ⟨?_, reached.head?_events_dispatch (word :: arguments)⟩
    rw [now]
    exact Families.classifies_ofList _ _ word
  · intro others sameStore sameDevice
    have sameFamilies : (fresh.history others).families = reached.families := by
      rw [now, families others, NameSet.ofList_congr sameStore, NameSet.ofList_congr sameDevice]
    rw [sameFamilies]
    exact ⟨rfl, rfl⟩

end Running

end Menu

end TiltMenu
