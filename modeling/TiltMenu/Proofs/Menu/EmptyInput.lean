import TiltMenu.Menu.Stock
import TiltMenu.Proofs.Device.Execution
import TiltMenu.Proofs.Input.Wordless
import TiltMenu.Proofs.Menu.CutBatch
import TiltMenu.Proofs.Menu.Dispatch
import TiltMenu.Proofs.Store.Events

/-!
# Empty input

A menu complains about empty input when a command line has no words, once for each, and at no
other time (`countP_complains_dispatch`), as long as none of its parts logs that complaint
(`PartsSilent`). The parts of the stock menu do not (`partsSilent_stock`).

The command lines without words are those that stand in a script for a line that cannot be
split. So the batch of a script complains once for each such line, and a session over a line
source never does.
-/

set_option autoImplicit false

namespace TiltMenu.Menu

open CommandLine (isSkippable split?)
open Input (LineSource Source handed of_mem_handed)
open Log (Event)

/-- The event complains about empty input. -/
def Complains (event : Event) : Prop := event.stage = some "empty_input"

instance (event : Event) : Decidable (Complains event) :=
  inferInstanceAs (Decidable (event.stage = some "empty_input"))

/-- An event that shows the stage of an operation is no complaint. -/
theorem not_complains_of_brackets {α : Type} {operation : String} {outcome : Outcome α}
    (brackets : outcome.Brackets operation) {event : Event} (member : event ∈ outcome.events) :
    ¬ Complains event := by
  rcases brackets.stage_cases member with stage | stage | stage | stage
  · simp [Complains, stage]
  · simp [Complains, stage, Log.Stage.start]
  · simp [Complains, stage, Log.Stage.finish]
  · simp [Complains, stage, Log.Stage.failure]

/-! ## Parts -/

/-- Neither the validators nor the executor complain about empty input. -/
structure PartsSilent (σ ν δ : Type) {κ ρ : Type} [Executor σ κ] [Validator ν κ] [Validator δ ρ] :
    Prop where
  storeValidator : ∀ (validator : δ) (store : Store) (commandLine : CommandLine),
    ∀ event ∈ (Validator.inspect validator store commandLine).events, ¬ Complains event
  deviceValidator : ∀ (validator : ν) (store : Store) (commandLine : CommandLine),
    ∀ event ∈ (Validator.inspect validator store commandLine).events, ¬ Complains event
  queue : ∀ (executor : σ) (commands : List κ),
    ∀ event ∈ (Executor.enqueue executor commands).2, ¬ Complains event
  execution : ∀ executor : σ, ∀ event ∈ (Executor.execute executor).events, ¬ Complains event

/-- A validator that reads command lines does not complain. -/
theorem not_complains_of_mem_ofReading {ν κ : Type} {validator : ν} {commandLine : CommandLine}
    {reading : Except Fault κ} {event : Event}
    (member : event ∈ (Verdict.ofReading validator commandLine reading).events) :
    ¬ Complains event := by
  obtain ⟨fault, rfl⟩ := Verdict.eq_rejected_of_mem member
  simp [Complains, rejected]

theorem partsSilent_stock : PartsSilent Device.Controller Device.Rules Store.Rules where
  storeValidator := fun _ _ _ _ => not_complains_of_mem_ofReading
  deviceValidator := fun _ _ _ _ => not_complains_of_mem_ofReading
  queue := fun _ _ => List.forall_mem_nil _
  execution := fun controller _ => not_complains_of_brackets controller.brackets_execute

/-! ## Complaints -/

section Silent

variable {σ ν δ κ ρ : Type} [Executor σ κ] [Validator ν κ] [Validator δ ρ]
  (silent : PartsSilent σ ν δ)

include silent

/-- A command line with words brings no complaint. -/
theorem not_complains_of_mem_dispatch {menu : Menu σ ν δ} {commandLine : CommandLine}
    (worded : commandLine ≠ []) {event : Event}
    (member : event ∈ (menu.dispatch commandLine).events) : ¬ Complains event := by
  cases loggedBy member with
  | wordless empty _ => exact absurd empty worded
  | menu own => exact own.stage
  | storeValidator judged => exact silent.storeValidator _ _ _ event judged
  | deviceValidator judged => exact silent.deviceValidator _ _ _ event judged
  | store ran => exact not_complains_of_brackets (menu.store.brackets_run commandLine) ran
  | queue queued => exact silent.queue _ _ event queued
  | execution executed => exact silent.execution _ event executed

/-- **A dispatch complains once if the command line has no words, and not at all
otherwise.** -/
theorem countP_complains_dispatch (menu : Menu σ ν δ) (commandLine : CommandLine) :
    (menu.dispatch commandLine).events.countP (Complains ·) = [commandLine].count [] := by
  by_cases worded : commandLine = []
  · subst worded
    rfl
  · rw [List.countP_eq_zero.mpr fun event member => by
      simpa using not_complains_of_mem_dispatch silent worded member]
    rw [List.count_singleton]
    simp [worded]

/-- **A batch complains once for each command line without words.** -/
theorem countP_complains_runBatch (menu : Menu σ ν δ) (commandLines : List CommandLine) :
    (menu.runBatch commandLines).events.countP (Complains ·) = commandLines.count [] := by
  have dispatched : (menu.dispatchAll commandLines).events.countP (Complains ·) =
      commandLines.count [] := by
    induction commandLines generalizing menu with
    | nil => rfl
    | cons first rest ih =>
      have whole : (menu.dispatchAll (first :: rest)).events =
          (menu.dispatch first).events ++
            ((menu.dispatch first).state.dispatchAll rest).events := rfl
      have cut : first :: rest = [first] ++ rest := rfl
      rw [whole, List.countP_append, countP_complains_dispatch silent, ih, cut, List.count_append]
  have own : (menu.runBatch commandLines).events =
      menu.batchStarted commandLines.length :: ((menu.dispatchAll commandLines).events
        ++ [menu.batchFinished (menu.dispatchAll commandLines).succeeded]) := rfl
  rw [own, List.countP_cons_of_neg, List.countP_append, dispatched]
  · rfl
  · simp [Complains, batchStarted, Event.started, Log.Stage.start]

/-- **A session over a line source does not complain**, whatever the reader delivers. -/
theorem not_complains_of_mem_runSession (menu : Menu σ ν δ) (source : LineSource) :
    ∀ event ∈ (menu.runSession source).outcome.events, ¬ Complains event := by
  refine of_mem_runSession (by simp [Complains, endOfInput]) ?_ ?_
  · intro asked event answered
    simp [Complains, LineSource.stage_of_mem_next answered]
  · intro reached asked commandLine found event member
    exact not_complains_of_mem_dispatch silent (LineSource.ne_nil_of_next found) member

end Silent

/-- **Empty input stands for a line that cannot be split.** A script has one command line for each
line that is neither blank nor a comment, in order, and one without words exactly for a line that
cannot be split. There is one warning for each of these lines, with its number, counted from one
over all lines, and the batch of the script complains about empty input once for each. A line
source hands out no command line without words, whatever its reader delivers and however it fails,
so that no session over it dispatches one, and none complains. Complaints are counted for menus
whose parts make none of their own. -/
theorem complaints_of_unsplittable {σ ν δ κ ρ : Type} [Executor σ κ] [Validator ν κ]
    [Validator δ ρ] :
    (∀ script : String,
      let lines := Text.lines script.toList
      let kept := lines.filter fun line => !isSkippable line
      Script.commands script = kept.map (fun line => (split? (String.ofList line)).getD []) ∧
      (∀ line ∈ kept, (split? (String.ofList line)).getD [] = [] ↔
        split? (String.ofList line) = none) ∧
      ∃ numbers : List Nat,
        (∀ number, number ∈ numbers ↔
          ∃ place line, number = place + 1 ∧ lines[place]? = some line ∧
            isSkippable line = false ∧ split? (String.ofList line) = none) ∧
        numbers.Pairwise (· < ·) ∧
        Script.warnings script = numbers.map Script.unsplittable ∧
        (Script.warnings script).map (fun event => (event.level, event.detail? "line")) =
          numbers.map (fun number => (.warn, some (.number number))) ∧
        (PartsSilent σ ν δ → ∀ menu : Menu σ ν δ,
          (menu.runBatch (Script.commands script)).events.countP (Complains ·) =
            numbers.length)) ∧
    ∀ source : LineSource,
      (∀ commandLine, (Source.next source).commandLine = some commandLine → commandLine ≠ []) ∧
      (∀ menu : Menu σ ν δ,
        ∀ commandLine ∈ menu.attempted (handed source), commandLine ≠ []) ∧
      (PartsSilent σ ν δ → ∀ menu : Menu σ ν δ,
        ∀ event ∈ (menu.runSession source).outcome.events, ¬ Complains event) := by
  refine ⟨?_, ?_⟩
  · intro script lines kept
    refine ⟨Script.commands_eq_map script, ?_, Script.unsplittableNumbers script,
      Script.mem_unsplittableNumbers_iff script, Script.pairwise_unsplittableNumbers script,
      Script.warnings_eq script, Script.map_warnings script, ?_⟩
    · intro line member
      have shown : isSkippable line = false := by simpa using (List.mem_filter.mp member).2
      exact Script.getD_split?_eq_nil_iff shown
    · intro silent menu
      rw [countP_complains_runBatch silent, Script.count_commands]
  · intro source
    refine ⟨fun _ => LineSource.ne_nil_of_next, ?_,
      fun silent menu => not_complains_of_mem_runSession silent menu source⟩
    intro menu commandLine member
    have front := attempted_prefix menu (handed source)
    exact of_mem_handed (fun _ _ => LineSource.ne_nil_of_next) (front.subset member)

/-- A script of the stock menu with a line of other blanks than separators, an empty word, and
lines that end in a quote and after a backslash. -/
theorem complaints_of_open_quote :
    let script := "\u00a0\u000b\n''\ngetdb 'a\n  # 'b\nexit \\"
    let menu := StockMenu.new "menu" .defaults
    let source : LineSource :=
      { chunks := [.bytes (Text.encode script), .failure .invalidData "malformed"] }
    Script.commands script = [[""], [], []] ∧
      (Script.warnings script).map (fun event => (event.level, event.detail? "line")) =
        [(.warn, some (.number 3)), (.warn, some (.number 5))] ∧
      (menu.runBatch (Script.commands script)).events.countP (Complains ·) = 2 ∧
      ∀ event ∈ (menu.runSession source).outcome.events, ¬ Complains event := by
  intro script menu source
  obtain ⟨scripts, sources⟩ :=
    @complaints_of_unsplittable Device.Controller Device.Rules Store.Rules _ _ _ _ _
  have commands : Script.commands script = [[""], [], []] := by decide
  have warned : (Script.warnings script).map (fun event => (event.level, event.detail? "line")) =
      [(.warn, some (.number 3)), (.warn, some (.number 5))] := by decide
  obtain ⟨_, _, numbers, _, _, _, described, complaints⟩ := scripts script
  have counted : numbers.length = 2 := by
    have same := congrArg List.length (described.symm.trans warned)
    rwa [List.length_map] at same
  obtain ⟨_, _, session⟩ := sources source
  exact ⟨commands, warned, (complaints partsSilent_stock menu).trans counted,
    session partsSilent_stock menu⟩

end TiltMenu.Menu
