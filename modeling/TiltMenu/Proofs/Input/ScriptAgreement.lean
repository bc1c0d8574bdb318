import TiltMenu.Proofs.CommandLine.Mode
import TiltMenu.Proofs.Input.Lines

/-!
# The same text as a session and as a script

A script is cut into lines without their terminators, a session reads lines with them. A
newline makes no difference to what a line means (`commandOfLine?_newline`). A carriage
return before it does, unless the line is skipped or ends in a comment: a script drops it
and a session takes it for a character of a word (`commandOfLine?_return_iff`).

So a text whose lines can be split gives the same command lines either way exactly when no
line with a command ends in a carriage return and a newline outside a comment.
-/

set_option autoImplicit false

namespace TiltMenu

open Text (pieces dropTerminator)
open CommandLine (isSkippable split? splitChars? EndsInComment)

/-! ## Skipping -/

namespace CommandLine

/-- Blanks at the end of a line do not decide whether it is skipped. -/
theorem isSkippable_append {blanks : List Char} (blank : ∀ character ∈ blanks,
    Text.isBlank character = true) (line : List Char) :
    isSkippable (line ++ blanks) = isSkippable line := by
  unfold isSkippable Text.trimStart
  induction line with
  | nil =>
    have trimmed : blanks.dropWhile Text.isBlank = [] := List.dropWhile_eq_nil_iff.mpr blank
    rw [List.nil_append, trimmed]
    rfl
  | cons first rest ih =>
    rw [List.cons_append, List.dropWhile_cons, List.dropWhile_cons]
    cases white : Text.isBlank first with
    | true => exact ih
    | false => rfl

theorem isSkippable_append_newline (line : List Char) :
    isSkippable (line ++ ['\n']) = isSkippable line :=
  isSkippable_append (List.forall_mem_singleton.mpr rfl) line

theorem isSkippable_append_return (line : List Char) :
    isSkippable (line ++ ['\r', '\n']) = isSkippable line :=
  isSkippable_append (List.forall_mem_cons.mpr ⟨rfl, List.forall_mem_singleton.mpr rfl⟩) line

/-- Texts are split alike when their characters are. -/
theorem split?_ofList_eq_iff (first second : List Char) :
    split? (String.ofList first) = split? (String.ofList second) ↔
      splitChars? first = splitChars? second := by
  rw [split?, split?, String.toList_ofList, String.toList_ofList]
  constructor
  · intro same
    refine Option.map_injective (List.map_injective_iff.mpr ?_) same
    intro left right equal
    exact String.ofList_injective equal
  · intro same
    rw [same]

theorem isSome_split?_ofList (line : List Char) :
    (split? (String.ofList line)).isSome = (splitChars? line).isSome := by
  rw [split?, String.toList_ofList, Option.isSome_map]

end CommandLine

/-! ## Terminators -/

/-- **A line with its terminator is the line, the line and a newline, or the line, a
carriage return and a newline.** -/
theorem Text.dropTerminator_cases (piece : List Char) :
    dropTerminator piece = piece ∨ piece = dropTerminator piece ++ ['\n'] ∨
      piece = dropTerminator piece ++ ['\r', '\n'] := by
  unfold dropTerminator
  split
  · next body reversed =>
    refine .inr (.inr ?_)
    rw [← List.reverse_reverse piece, reversed]
    simp
  · next body _ reversed =>
    refine .inr (.inl ?_)
    rw [← List.reverse_reverse piece, reversed]
    simp
  · exact .inl rfl

theorem Text.dropTerminator_return (line : List Char) :
    dropTerminator (line ++ ['\r', '\n']) = line := by
  simp [dropTerminator]

/-- Dropping the newline of a line leaves the line, or the line without the carriage return at
its end. -/
theorem Text.dropTerminator_newline (line : List Char) :
    dropTerminator (line ++ ['\n']) = line ∨
      ∃ body, line = body ++ ['\r'] ∧ dropTerminator (line ++ ['\n']) = body := by
  unfold dropTerminator
  rw [List.reverse_concat]
  split
  · next body reversed =>
    have ended : line.reverse = '\r' :: body := (List.cons.inj reversed).2
    refine .inr ⟨body.reverse, ?_, rfl⟩
    rw [← List.reverse_reverse line, ended, List.reverse_cons]
  · next body _ reversed =>
    have same : line.reverse = body := (List.cons.inj reversed).2
    exact .inl (by rw [← same, List.reverse_reverse])
  · next _ other => exact absurd rfl (other line.reverse)

/-! ## Scripts -/

namespace Script

/-- What a line without its terminator gives in a script: nothing if it is skipped, a
command line without words if it cannot be split. -/
def commandOfLine? (line : List Char) : Option CommandLine :=
  if isSkippable line then none else some ((split? (String.ofList line)).getD [])

/-- The commands of a script are what its lines give. The numbers of the lines do not
matter. -/
theorem commands_eq_filterMap (script : String) :
    commands script = (Text.lines script.toList).filterMap commandOfLine? := by
  rw [commands, numberedLines]
  generalize Text.lines script.toList = lines
  generalize 1 = number
  induction lines generalizing number with
  | nil => rfl
  | cons line rest ih =>
    rw [List.zipIdx_cons, List.filter_cons]
    cases skipped : isSkippable line with
    | true =>
      have nothing : commandOfLine? line = none := by rw [commandOfLine?, if_pos skipped]
      rw [List.filterMap_cons_none nothing, ← ih (number + 1)]
      rfl
    | false =>
      have something : commandOfLine? line = some (commandOf (line, number)).1 := by
        rw [commandOfLine?, skipped, commandOf]
        cases split? (String.ofList line) <;> rfl
      rw [List.filterMap_cons_some something, ← ih (number + 1)]
      rfl

end Script

/-! ## Sessions -/

namespace Input.LineSource

/-- **A newline makes no difference to a line that can be split.** -/
theorem commandOfLine?_newline {line : List Char}
    (splittable : isSkippable line = false → (split? (String.ofList line)).isSome) :
    commandOfLine? (line ++ ['\n']) = commandOfLine? line := by
  rw [commandOfLine?, CommandLine.isSkippable_append_newline, commandOfLine?]
  cases skipped : isSkippable line with
  | true => rfl
  | false =>
    have split := splittable skipped
    rw [CommandLine.isSome_split?_ofList] at split
    exact (CommandLine.split?_ofList_eq_iff _ _).mpr (CommandLine.splitChars?_append_newline split)

/-- **A carriage return and a newline make no difference to a line that can be split
exactly when it is skipped or ends in a comment.** -/
theorem commandOfLine?_return_iff {line : List Char}
    (splittable : isSkippable line = false → (split? (String.ofList line)).isSome) :
    commandOfLine? (line ++ ['\r', '\n']) = commandOfLine? line ↔
      (isSkippable line = false → EndsInComment line) := by
  rw [commandOfLine?, CommandLine.isSkippable_append_return, commandOfLine?]
  cases skipped : isSkippable line with
  | true => simp
  | false =>
    have split := splittable skipped
    rw [CommandLine.isSome_split?_ofList] at split
    rw [← CommandLine.splitChars?_append_return_iff split, ← CommandLine.split?_ofList_eq_iff]
    simp

/-- A line that can be split means the same in a session and in a script. -/
theorem commandOfLine?_eq_script {line : List Char}
    (splittable : isSkippable line = false → (split? (String.ofList line)).isSome) :
    commandOfLine? line = Script.commandOfLine? line := by
  rw [commandOfLine?, Script.commandOfLine?]
  cases skipped : isSkippable line with
  | true => rfl
  | false =>
    obtain ⟨command, found⟩ := Option.isSome_iff_exists.mp (splittable skipped)
    rw [found]
    rfl

/-- The terminator does not decide whether a line that can be split carries a command. -/
theorem isSome_commandOfLine? {piece : List Char}
    (splittable : isSkippable (dropTerminator piece) = false →
      (split? (String.ofList (dropTerminator piece))).isSome) :
    (commandOfLine? piece).isSome = (commandOfLine? (dropTerminator piece)).isSome := by
  rcases Text.dropTerminator_cases piece with plain | ended | returned
  · rw [plain]
  · rw [← commandOfLine?_newline splittable, ← ended]
  · generalize line : dropTerminator piece = bare at *
    subst returned
    rw [commandOfLine?, CommandLine.isSkippable_append_return, commandOfLine?]
    cases skipped : isSkippable bare with
    | true => rfl
    | false =>
      have split := splittable skipped
      have longer : (split? (String.ofList (bare ++ ['\r', '\n']))).isSome := by
        rw [CommandLine.isSome_split?_ofList] at split ⊢
        exact CommandLine.isSome_splitChars?_append_return split
      exact longer.trans split.symm

/-- **A line with its terminator means in a session what it means in a script exactly when
its terminator is none, a newline, or one that makes no difference.** -/
theorem commandOfLine?_piece_iff {piece : List Char}
    (splittable : isSkippable (dropTerminator piece) = false →
      (split? (String.ofList (dropTerminator piece))).isSome) :
    commandOfLine? piece = Script.commandOfLine? (dropTerminator piece) ↔
      (piece = dropTerminator piece ++ ['\r', '\n'] →
        isSkippable (dropTerminator piece) = false → EndsInComment (dropTerminator piece)) := by
  rw [← commandOfLine?_eq_script splittable, ← commandOfLine?_return_iff splittable]
  rcases Text.dropTerminator_cases piece with plain | ended | returned
  · rw [plain]
    simp
  · have same : commandOfLine? piece = commandOfLine? (dropTerminator piece) := by
      rw [← commandOfLine?_newline splittable, ← ended]
    refine iff_of_true same fun returned => ?_
    rw [← returned]
    exact same
  · rw [← returned]
    exact ⟨fun same _ => same, fun same => same rfl⟩

/-! ## Texts -/

/-- Picking from a list in two ways that pick at the same places gives the same exactly when
they pick the same everywhere. -/
theorem filterMap_eq_filterMap_iff {α β : Type} {first second : α → Option β} {list : List α}
    (places : ∀ element ∈ list, (first element).isSome = (second element).isSome) :
    list.filterMap first = list.filterMap second ↔
      ∀ element ∈ list, first element = second element := by
  induction list with
  | nil => simp
  | cons head tail ih =>
    have rest := ih fun element member => places element (List.mem_cons_of_mem head member)
    have here := places head List.mem_cons_self
    rw [List.forall_mem_cons, ← rest]
    cases left : first head with
    | none =>
      cases right : second head with
      | none => simp [left, right]
      | some found => simp [left, right] at here
    | some found =>
      cases right : second head with
      | none => simp [left, right] at here
      | some other => simp [left, right]

/-- **A text whose lines can be split gives the same command lines to a session and as a
script exactly when no line with a command ends in a carriage return and a newline outside a
comment.** The session may read the bytes of the text in any chunks. -/
theorem handed_eq_commands_iff (text : String) (source : LineSource)
    (quiet : Undisturbed source.chunks) (whole : delivered source.chunks = Text.encode text)
    (splittable : ∀ line ∈ Text.lines text.toList, isSkippable line = false →
      (split? (String.ofList line)).isSome) :
    handed source = Script.commands text ↔
      ∀ line, line ++ ['\r', '\n'] ∈ pieces (· == '\n') text.toList →
        isSkippable line = false → EndsInComment line := by
  have pieceSplittable : ∀ piece ∈ pieces (· == '\n') text.toList,
      isSkippable (dropTerminator piece) = false →
        (split? (String.ofList (dropTerminator piece))).isSome := fun piece member =>
    splittable _ (List.mem_map_of_mem member)
  rw [handed_of_encode quiet whole, Script.commands_eq_filterMap, Text.lines, List.filterMap_map,
    filterMap_eq_filterMap_iff]
  · constructor
    · intro same line member kept
      have split := pieceSplittable _ member
      have bare := Text.dropTerminator_return line
      have agrees := (commandOfLine?_piece_iff split).mp (same _ member)
      rw [bare] at agrees
      exact agrees rfl kept
    · intro harmless piece member
      refine (commandOfLine?_piece_iff (pieceSplittable piece member)).mpr ?_
      intro returned
      exact harmless _ (returned ▸ member)
  · intro piece member
    have split := pieceSplittable piece member
    rw [Function.comp_apply, ← commandOfLine?_eq_script split, isSome_commandOfLine? split]

/-- Terminators of both kinds, the one with a carriage return behind a comment and behind a
blank line. -/
theorem handed_eq_commands_of_comment :
    let text := "getdb min_tilt # low\r\n\r\nSetTilt '5 0'\nexit"
    let source : LineSource :=
      { chunks := [.bytes (Text.encode text), .failure .interrupted "signal"] }
    handed source = [["getdb", "min_tilt"], ["SetTilt", "5 0"], ["exit"]] ∧
      handed source = Script.commands text := by
  intro text source
  have quiet : Undisturbed source.chunks := by
    simp [Undisturbed, source, Chunk.isQuiet]
  have whole : delivered source.chunks = Text.encode text := by
    simp [source, delivered, Chunk.content]
  have commands : Script.commands text = [["getdb", "min_tilt"], ["SetTilt", "5 0"], ["exit"]] := by
    decide
  have agrees : handed source = Script.commands text := by
    refine (handed_eq_commands_iff text source quiet whole (by decide)).mpr ?_
    intro line member kept
    have harmless : ∀ piece ∈ pieces (· == '\n') text.toList,
        piece = dropTerminator piece ++ ['\r', '\n'] →
          isSkippable (dropTerminator piece) = false → EndsInComment (dropTerminator piece) := by
      decide
    have here := harmless _ member
    rw [Text.dropTerminator_return] at here
    exact here rfl kept
  exact ⟨agrees.trans commands, agrees⟩

/-- A session takes the carriage return of a terminator for a part of the word before it. -/
theorem handed_ne_commands_of_return :
    let text := "exit\r\n"
    let source : LineSource := { chunks := [.bytes (Text.encode text)] }
    Undisturbed source.chunks ∧ delivered source.chunks = Text.encode text ∧
      (∀ line ∈ Text.lines text.toList, isSkippable line = false →
        (split? (String.ofList line)).isSome) ∧
      handed source = [["exit\r"]] ∧ Script.commands text = [["exit"]] := by
  intro text source
  have quiet : Undisturbed source.chunks := by
    simp [Undisturbed, source, Chunk.isQuiet]
  have whole : delivered source.chunks = Text.encode text := by
    simp [source, delivered, Chunk.content]
  refine ⟨quiet, whole, by decide, ?_, by decide⟩
  rw [handed_of_encode quiet whole]
  decide

end Input.LineSource

end TiltMenu
