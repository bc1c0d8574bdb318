import TiltMenu.Config.Basic
import TiltMenu.Menu.Session

/-!
# Histories of a menu

A history is a list of the operations that the owner of a menu may call, in any order:
single command lines, batches, sessions over any source, other names for the families, and
changes made to the executor behind the menu's back.

Batches and sessions do nothing but dispatch command lines one after another
(`after_batch`, `exists_after_session`), so the states between the command lines of a batch
or a session are reached by dispatching single command lines, and so is every state of a
history of such operations (`exists_history_of_dispatching`). A property that every
dispatch keeps, and that does not depend on the names of the families, holds after every
history (`Lasting.history`).
-/

set_option autoImplicit false

namespace TiltMenu.Menu

open Input (Source Reading)

variable {σ ν δ κ ρ : Type}

/-- What the owner of a menu can do with it. -/
inductive Operation (σ : Type) : Type 1 where
  | dispatch (commandLine : CommandLine)
  | batch (commandLines : List CommandLine)
  /-- A session over a source that ends. -/
  | session {ς : Type} [Source ς] (source : ς)
  /-- The first command lines of a session over anything that can be asked for command
  lines, which may go on for ever. -/
  | sessionPart {ς : Type} (ask : ς → Reading ς) (source : ς) (count : Nat)
  | storeNames (names : List String)
  | deviceNames (names : List String)
  | configure (config : Config)
  /-- A change of the executor past the menu. -/
  | control (change : σ → σ)

namespace Operation

/-- The operation reaches the executor through the menu only. -/
def IsMediated : Operation σ → Prop
  | .control _ => False
  | _ => True

/-- The operation does nothing but dispatch command lines. -/
def IsDispatching : Operation σ → Prop
  | .storeNames _ | .deviceNames _ | .configure _ | .control _ => False
  | _ => True

end Operation

section Running

variable [Executor σ κ] [Validator ν κ] [Validator δ ρ]

/-- The menu after at most a number of command lines of a session. -/
def runSessionPart {ς : Type} (ask : ς → Reading ς) (menu : Menu σ ν δ) (source : ς) :
    Nat → Menu σ ν δ
  | 0 => menu
  | count + 1 =>
    match (ask source).commandLine with
    | none => menu
    | some commandLine =>
      if (menu.dispatch commandLine).succeeded then
        runSessionPart ask (menu.dispatch commandLine).state (ask source).source count
      else (menu.dispatch commandLine).state

/-- The menu after an operation. -/
def after (menu : Menu σ ν δ) : Operation σ → Menu σ ν δ
  | .dispatch commandLine => (menu.dispatch commandLine).state
  | .batch commandLines => (menu.runBatch commandLines).state
  | @Operation.session _ _ _ source => (menu.runSession source).outcome.state
  | .sessionPart ask source count => menu.runSessionPart ask source count
  | .storeNames names => (menu.replaceStoreNames names).2
  | .deviceNames names => (menu.replaceDeviceNames names).2
  | .configure config => menu.applyConfig config
  | .control change => { menu with executor := change menu.executor }

/-- The menu after the operations of a history. -/
def history (menu : Menu σ ν δ) (operations : List (Operation σ)) : Menu σ ν δ :=
  operations.foldl after menu

/-! ## Batches and sessions are dispatches -/

/-- A batch leaves what dispatching its command lines leaves. -/
theorem after_batch (menu : Menu σ ν δ) (commandLines : List CommandLine) :
    menu.after (.batch commandLines) = menu.history (commandLines.map .dispatch) := by
  show (Outcome.runAll dispatch menu commandLines).state = _
  induction commandLines generalizing menu with
  | nil => rfl
  | cons first rest ih => exact ih (menu.dispatch first).state

/-- A part of a session leaves what dispatching some command lines leaves. -/
theorem exists_after_sessionPart {ς : Type} (ask : ς → Reading ς) (menu : Menu σ ν δ)
    (source : ς) (count : Nat) :
    ∃ commandLines : List CommandLine,
      menu.after (.sessionPart ask source count) = menu.history (commandLines.map .dispatch) := by
  show ∃ commandLines : List CommandLine, menu.runSessionPart ask source count = _
  induction count generalizing menu source with
  | zero => exact ⟨[], rfl⟩
  | succ count ih =>
    rw [runSessionPart]
    split
    · exact ⟨[], rfl⟩
    · next commandLine _ =>
      split
      · obtain ⟨rest, same⟩ := ih (menu.dispatch commandLine).state (ask source).source
        exact ⟨commandLine :: rest, same⟩
      · exact ⟨[commandLine], rfl⟩

/-- A session over a source that ends is a part of itself that is long enough. -/
theorem runSession_eq_part {ς : Type} [Source ς] (menu : Menu σ ν δ) (source : ς) (count : Nat)
    (enough : Source.left source < count) :
    (menu.runSession source).outcome.state = menu.runSessionPart Source.next source count := by
  induction count generalizing menu source with
  | zero => exact absurd enough (Nat.not_lt_zero _)
  | succ count ih =>
    rw [runSession, runSessionPart]
    split
    · next exhausted => simp only [exhausted]
    · next commandLine handed =>
      have less : Source.left (Source.next source).source < count := by
        have := Source.left_next_lt source (by rw [handed]; rfl)
        omega
      have rest := ih (menu.dispatch commandLine).state (Source.next source).source less
      simp only [handed]
      show (if (menu.dispatch commandLine).succeeded then _ else _ :
        SessionRun σ ν δ ς).outcome.state = _
      split
      · exact rest
      · rfl

/-- A session over a source that ends leaves what dispatching some command lines leaves. -/
theorem exists_after_session {ς : Type} [Source ς] (menu : Menu σ ν δ) (source : ς) :
    ∃ commandLines : List CommandLine,
      menu.after (.session source) = menu.history (commandLines.map .dispatch) := by
  have part := exists_after_sessionPart Source.next menu source (Source.left source + 1)
  have same := runSession_eq_part menu source _ (Nat.lt_succ_self (Source.left source))
  obtain ⟨commandLines, reached⟩ := part
  exact ⟨commandLines, same.trans reached⟩

/-- **A history of dispatching operations leaves what dispatching some command lines
leaves.** -/
theorem exists_history_of_dispatching (menu : Menu σ ν δ) (operations : List (Operation σ))
    (dispatching : ∀ operation ∈ operations, operation.IsDispatching) :
    ∃ commandLines : List CommandLine,
      menu.history operations = menu.history (commandLines.map .dispatch) := by
  induction operations generalizing menu with
  | nil => exact ⟨[], rfl⟩
  | cons operation rest ih =>
    obtain ⟨later, reached⟩ := ih (menu.after operation) fun other member =>
      dispatching other (List.mem_cons_of_mem _ member)
    have first : ∃ commandLines : List CommandLine,
        menu.after operation = menu.history (commandLines.map .dispatch) := by
      have plain := dispatching operation List.mem_cons_self
      cases operation with
      | dispatch commandLine => exact ⟨[commandLine], rfl⟩
      | batch commandLines => exact ⟨commandLines, menu.after_batch commandLines⟩
      | session source => exact menu.exists_after_session source
      | sessionPart ask source count => exact exists_after_sessionPart ask menu source count
      | storeNames names => exact absurd plain id
      | deviceNames names => exact absurd plain id
      | configure config => exact absurd plain id
      | control change => exact absurd plain id
    obtain ⟨commandLines, same⟩ := first
    refine ⟨commandLines ++ later, ?_⟩
    show (menu.after operation).history rest = _
    rw [reached, same, history, history, history, List.map_append, List.foldl_append]

/-! ## Properties that last -/

/-- A property that every dispatch keeps and that does not depend on the families. -/
structure Lasting (property : Menu σ ν δ → Prop) : Prop where
  dispatch : ∀ (menu : Menu σ ν δ) (commandLine : CommandLine),
    property menu → property (menu.dispatch commandLine).state
  families : ∀ (menu : Menu σ ν δ) (families : Families),
    property menu → property { menu with families := families }

namespace Lasting

variable {property : Menu σ ν δ → Prop}

theorem dispatches (lasting : Lasting property) {menu : Menu σ ν δ} (holds : property menu)
    (commandLines : List CommandLine) :
    property (menu.history (commandLines.map .dispatch)) := by
  induction commandLines generalizing menu with
  | nil => exact holds
  | cons first rest ih => exact ih (lasting.dispatch menu first holds)

/-- One operation keeps a lasting property. A change of the executor past the menu has to
keep it by itself. -/
theorem after (lasting : Lasting property) {menu : Menu σ ν δ} (holds : property menu)
    (operation : Operation σ)
    (controlled : ∀ change, operation = .control change →
      property { menu with executor := change menu.executor }) :
    property (menu.after operation) := by
  cases operation with
  | dispatch commandLine => exact lasting.dispatch menu commandLine holds
  | batch commandLines =>
    rw [after_batch]
    exact lasting.dispatches holds commandLines
  | session source =>
    obtain ⟨commandLines, reached⟩ := exists_after_session menu source
    rw [reached]
    exact lasting.dispatches holds commandLines
  | sessionPart ask source count =>
    obtain ⟨commandLines, reached⟩ := exists_after_sessionPart ask menu source count
    rw [reached]
    exact lasting.dispatches holds commandLines
  | storeNames names => exact lasting.families menu _ holds
  | deviceNames names => exact lasting.families menu _ holds
  | configure config => exact lasting.families _ _ (lasting.families menu _ holds)
  | control change => exact controlled change rfl

/-- **A lasting property holds after every history**, if changes of the executor past the
menu keep it as well. -/
theorem history (lasting : Lasting property) {menu : Menu σ ν δ} (holds : property menu)
    (operations : List (Operation σ))
    (controlled : ∀ change, .control change ∈ operations → ∀ menu : Menu σ ν δ,
      property menu → property { menu with executor := change menu.executor }) :
    property (menu.history operations) := by
  induction operations generalizing menu with
  | nil => exact holds
  | cons operation rest ih =>
    have next := lasting.after holds operation fun change same =>
      controlled change (same ▸ List.mem_cons_self) menu holds
    exact ih next fun change member => controlled change (List.mem_cons_of_mem _ member)

end Lasting

end Running

end TiltMenu.Menu
