import TiltMenu.Menu.Rehearsal
import TiltMenu.Menu.Stock
import TiltMenu.Proofs.Menu.CutBatch
import TiltMenu.Proofs.Menu.Routing

/-!
# The store without the device

When the store has its own validator, a dispatch does to the store what running the command line
on it does, if the command line is for the store, and whether it succeeds depends on the store
only (`store_dispatch_of_forStore`). Any other command line leaves the store alone.

So a batch leaves the store that running the command lines for the store leaves, one after another
(`store_dispatchAll`). The executor, the validator of the device and every other command line
leave no trace in it.
-/

set_option autoImplicit false

namespace TiltMenu

/-- Whether a command line that is for the store succeeds: it is turned down if it cannot be
read, and run otherwise. -/
def Store.grants (store : Store) (commandLine : CommandLine) : Bool :=
  match Request.parse store commandLine with
  | .ok _ => (store.run commandLine).succeeded
  | .error _ => true

/-- An element that is kept when a list is filtered stands behind those that are kept before
it. -/
theorem filter_at {α : Type} {keep : α → Bool} {list : List α} {place : Nat} {element : α}
    (here : list[place]? = some element) (kept : keep element = true) :
    let rank := ((list.take place).filter keep).length
    (list.filter keep)[rank]? = some element ∧
      (list.filter keep).take rank = (list.take place).filter keep := by
  obtain ⟨inside, same⟩ := List.getElem?_eq_some_iff.mp here
  have cut : list = list.take place ++ element :: list.drop (place + 1) := by
    rw [← same, List.getElem_cons_drop, List.take_append_drop]
  have filtered : list.filter keep =
      (list.take place).filter keep ++ element :: (list.drop (place + 1)).filter keep := by
    conv_lhs => rw [cut]
    rw [List.filter_append, List.filter_cons_of_pos kept]
  intro rank
  rw [filtered]
  exact ⟨by simp [rank], List.take_left⟩

namespace Menu

section Dispatching

variable {σ ν κ : Type} [Executor σ κ] [Validator ν κ] (menu : Menu σ ν Store.Rules)

/-! ## One command line -/

/-- **A command line for the store does what running it on the store does.** What is turned down
would not change the store either. -/
theorem store_dispatch_of_forStore {commandLine : CommandLine}
    (forStore : menu.families.isForStore commandLine = true) :
    (menu.dispatch commandLine).succeeded = menu.store.grants commandLine ∧
      (menu.dispatch commandLine).state.store = (menu.store.run commandLine).state := by
  obtain ⟨turnedDown, run⟩ := menu.dispatch_of_forStore commandLine forStore
  have judged : menu.storeVerdict commandLine =
      .ofReading menu.storeValidator commandLine
        (Store.Request.parse menu.store commandLine) := rfl
  rw [judged] at turnedDown run
  unfold Store.grants
  cases read : Store.Request.parse menu.store commandLine with
  | error fault =>
    rw [read] at turnedDown
    obtain ⟨succeeded, left⟩ := turnedDown rfl
    have refused : menu.store.execute commandLine = .error fault := by
      simp only [Store.execute, read]
    rw [left, (Store.run_of_execute_error refused).2]
    exact ⟨succeeded, rfl⟩
  | ok request =>
    rw [read] at run
    obtain ⟨succeeded, left⟩ := run request rfl
    rw [left]
    exact ⟨succeeded, rfl⟩

/-- Any other command line leaves the store alone. -/
theorem store_dispatch_of_not_forStore {commandLine : CommandLine}
    (other : menu.families.isForStore commandLine = false) :
    (menu.dispatch commandLine).state.store = menu.store := by
  by_contra changed
  have forStore := (menu.forStore_of_store_dispatch_ne commandLine changed).1
  rw [other] at forStore
  cases forStore

/-! ## Batches -/

theorem families_dispatchAll (commandLines : List CommandLine) :
    (menu.dispatchAll commandLines).state.families = menu.families := by
  induction commandLines generalizing menu with
  | nil => rfl
  | cons first rest ih =>
    exact (ih (menu.dispatch first).state).trans (menu.families_dispatch first)

/-- **A list of command lines leaves the store that those for the store leave by
themselves.** -/
theorem store_dispatchAll (commandLines : List CommandLine) :
    (menu.dispatchAll commandLines).state.store =
      (Outcome.runAll Store.run menu.store
        (commandLines.filter menu.families.isForStore)).state := by
  induction commandLines generalizing menu with
  | nil => rfl
  | cons first rest ih =>
    have later := ih (menu.dispatch first).state
    rw [menu.families_dispatch first] at later
    rw [dispatchAll_cons]
    cases forStore : menu.families.isForStore first with
    | true =>
      rw [(menu.store_dispatch_of_forStore forStore).2] at later
      rw [List.filter_cons_of_pos forStore]
      exact later
    | false =>
      rw [menu.store_dispatch_of_not_forStore forStore] at later
      rw [List.filter_cons_of_neg (by simp [forStore])]
      exact later

/-- **What a command line for the store contributes is what the store grants that those before it
leave.** -/
theorem contribution_of_forStore {commandLines : List CommandLine} {place : Nat}
    {commandLine : CommandLine} (here : commandLines[place]? = some commandLine)
    (forStore : menu.families.isForStore commandLine = true) :
    menu.contribution commandLines place =
      some ((Outcome.runAll Store.run menu.store
        ((commandLines.take place).filter menu.families.isForStore)).state.grants
          commandLine) := by
  have same := menu.families_dispatchAll (commandLines.take place)
  rw [contribution, here, Option.map_some,
    ((menu.dispatchAll (commandLines.take place)).state.store_dispatch_of_forStore
      (same ▸ forStore)).1, store_dispatchAll]

/-- The command lines for the store leave the same store by themselves. -/
theorem store_dispatchAll_filter (commandLines : List CommandLine) :
    (menu.dispatchAll (commandLines.filter menu.families.isForStore)).state.store =
      (menu.dispatchAll commandLines).state.store := by
  rw [store_dispatchAll, store_dispatchAll, List.filter_filter]
  simp only [Bool.and_self]

/-- They contribute the same by themselves. -/
theorem contribution_filter {commandLines : List CommandLine} {place : Nat}
    {commandLine : CommandLine} (here : commandLines[place]? = some commandLine)
    (forStore : menu.families.isForStore commandLine = true) :
    menu.contribution (commandLines.filter menu.families.isForStore)
        ((commandLines.take place).filter menu.families.isForStore).length =
      menu.contribution commandLines place := by
  obtain ⟨there, before⟩ := filter_at here forStore
  rw [menu.contribution_of_forStore there forStore, menu.contribution_of_forStore here forStore,
    before, List.filter_filter]
  simp only [Bool.and_self]

end Dispatching

/-! ## Two menus -/

section Pairs

variable {σ ν κ σ' ν' κ' : Type} [Executor σ κ] [Validator ν κ] [Executor σ' κ'] [Validator ν' κ']
  {left : Menu σ ν Store.Rules} {right : Menu σ' ν' Store.Rules}

/-- **The store does not depend on the device.** Two menus with the same store and the same names
for the store may differ in the executor, in the validator of the device and in their states.
They leave the same store after a batch, which is also the store that either of them leaves after
the command lines for the store alone, and a command line for the store contributes the same in
all these batches. -/
theorem store_of_device_replaced (store : left.store = right.store)
    (names : left.families.store = right.families.store) (commandLines : List CommandLine) :
    let forStore := left.families.isForStore
    let alone := commandLines.filter forStore
    (right.runBatch commandLines).state.store = (left.runBatch commandLines).state.store ∧
    (left.runBatch alone).state.store = (left.runBatch commandLines).state.store ∧
    (right.runBatch alone).state.store = (left.runBatch commandLines).state.store ∧
    ∀ place commandLine, commandLines[place]? = some commandLine → forStore commandLine = true →
      let rank := ((commandLines.take place).filter forStore).length
      alone[rank]? = some commandLine ∧
      ∃ succeeded : Bool,
        left.contribution commandLines place = some succeeded ∧
        right.contribution commandLines place = some succeeded ∧
        left.contribution alone rank = some succeeded ∧
        right.contribution alone rank = some succeeded := by
  have sameFamily : right.families.isForStore = left.families.isForStore := by
    funext commandLine
    rw [Families.isForStore, Families.isForStore, names]
  have sameStore : (right.dispatchAll commandLines).state.store =
      (left.dispatchAll commandLines).state.store := by
    rw [store_dispatchAll, store_dispatchAll, sameFamily, store]
  have rightAlone := right.store_dispatchAll_filter commandLines
  rw [sameFamily] at rightAlone
  intro forStore alone
  refine ⟨sameStore, left.store_dispatchAll_filter commandLines, rightAlone.trans sameStore, ?_⟩
  intro place commandLine here kept rank
  have keptRight : right.families.isForStore commandLine = true := by
    rw [sameFamily]
    exact kept
  have leftHere := left.contribution_of_forStore here kept
  have rightHere := right.contribution_of_forStore here keptRight
  have rightThere := right.contribution_filter here keptRight
  rw [sameFamily, ← store] at rightHere
  rw [sameFamily] at rightThere
  refine ⟨(filter_at here kept).1, _, leftHere, rightHere, ?_, ?_⟩
  · exact (left.contribution_filter here kept).trans leftHere
  · exact rightThere.trans rightHere

end Pairs

/-- A device that refuses to move, and none at all behind a validator that turns everything down.
The first command line for the store fails on both menus, the second succeeds. -/
theorem store_of_device_replaced_by_none :
    let names : NameSet := .ofList ["getdb", "setdb"]
    let left : StockMenu :=
      { StockMenu.new "left" .defaults with
        families := { store := names, device := .ofList ["SetTilt"] } }
    let right : Menu (Device.Absent String) Rehearsal.CountingValidator Store.Rules :=
      { name := "right"
        store := .defaults
        executor := {}
        deviceValidator := { accepting := false }
        storeValidator := {}
        families := { store := names, device := .ofList ["SetTilt"] } }
    let commandLines : List CommandLine :=
      [["SetTilt", "5"], ["setdb", "min_tilt", "200"], ["exit"], ["setdb", "max_tilt", "50"]]
    left.contribution commandLines 0 = some false ∧
      right.contribution commandLines 0 = some true ∧
      right.contribution commandLines 1 = some false ∧
      (right.runBatch commandLines).state.store = (left.runBatch commandLines).state.store ∧
      (left.runBatch commandLines).state.store.int Store.Key.maxTilt = .ok 50 := by
  intro names left right commandLines
  have same : left.store = right.store := rfl
  obtain ⟨stores, _, _, places⟩ := store_of_device_replaced same rfl commandLines
  obtain ⟨_, succeeded, onLeft, onRight, _⟩ :=
    places 1 ["setdb", "min_tilt", "200"] rfl (by decide)
  have failed : left.contribution commandLines 1 = some false := by decide
  refine ⟨by decide, by decide, ?_, stores, by decide⟩
  rw [onRight, ← onLeft, failed]

end Menu

end TiltMenu
