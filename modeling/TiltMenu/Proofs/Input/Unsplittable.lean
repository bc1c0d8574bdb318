import TiltMenu.Proofs.Input.ScriptAgreement
import TiltMenu.Proofs.Menu.CutBatch

/-!
# Lines that cannot be split

A line that ends inside a quote or after a backslash carries no command. A line source should
pass over it with one warning and answer as if it had begun behind it (`PassesOver`). A script
gives a command line without words in its place, so that its batch fails.

The source splits a line together with its newline. That newline leaves an open quote open,
but a backslash outside quotes escapes it, and then the line can be split
(`CommandLine.isSome_splitChars?_append_newline_iff`). So a source passes over a line that
cannot be split exactly when the line does not end after such a backslash
(`passesOver_unsplittable_iff`); otherwise it hands out the words of the line. The script is
not misled, because it splits the line without its terminator.
-/

set_option autoImplicit false

namespace TiltMenu

open Log (Event)
open Text (pieces dropTerminator encodeChars)
open CommandLine (isSkippable split? splitChars? EndsEscaped)

/-! ## Scripts -/

namespace Script

/-- **A line that cannot be split gives a command line without words**, also if a carriage
return before the newline is dropped. -/
theorem commandOfLine?_of_unsplittable {line : List Char} (kept : isSkippable line = false)
    (unsplittable : splitChars? line = none) :
    commandOfLine? (dropTerminator (line ++ ['\n'])) = some [] := by
  have wordless : ∀ body : List Char, isSkippable body = false → splitChars? body = none →
      commandOfLine? body = some [] := by
    intro body shown incomplete
    rw [commandOfLine?, shown, split?, String.toList_ofList, incomplete]
    rfl
  rcases Text.dropTerminator_newline line with same | ⟨body, rfl, dropped⟩
  · rw [same]
    exact wordless line kept unsplittable
  · rw [dropped]
    refine wordless body ?_ (CommandLine.splitChars?_of_append_return unsplittable)
    have blank : ∀ character ∈ ['\r'], Text.isBlank character = true :=
      List.forall_mem_singleton.mpr rfl
    rw [← CommandLine.isSkippable_append blank body]
    exact kept

/-- A script is the commands of its front, of one line and of the rest, if the front ends with
a newline or is empty. -/
theorem commands_append_line {before : List Char}
    (ended : before = [] ∨ ∃ earlier, before = earlier ++ ['\n']) {line : List Char}
    (oneLine : '\n' ∉ line) (after : List Char) :
    commands (String.ofList (before ++ line ++ '\n' :: after)) =
      commands (String.ofList before) ++
        ((commandOfLine? (dropTerminator (line ++ ['\n']))).toList ++
          commands (String.ofList after)) := by
  have here : pieces (· == '\n') (line ++ '\n' :: after) =
      (line ++ ['\n']) :: pieces (· == '\n') after :=
    Text.pieces_append_end (Text.inside_of_not_mem oneLine) rfl after
  have whole : pieces (· == '\n') (before ++ line ++ '\n' :: after) =
      pieces (· == '\n') before ++ (line ++ ['\n']) :: pieces (· == '\n') after := by
    rcases ended with rfl | ⟨earlier, rfl⟩
    · exact here
    · rw [List.append_assoc, List.append_assoc, List.singleton_append,
        Text.pieces_concat_append earlier rfl, here]
  have first (lines : List (List Char)) :
      (dropTerminator (line ++ ['\n']) :: lines).filterMap commandOfLine? =
        (commandOfLine? (dropTerminator (line ++ ['\n']))).toList ++
          lines.filterMap commandOfLine? := by
    cases found : commandOfLine? (dropTerminator (line ++ ['\n'])) with
    | none => exact List.filterMap_cons_none found
    | some commandLine => exact List.filterMap_cons_some found
  simp only [commands_eq_filterMap, String.toList_ofList, Text.lines, whole, List.map_append,
    List.map_cons, List.filterMap_append, first]

end Script

/-- A list with a command line without words fails as a batch. -/
theorem Menu.runBatch_failed_of_wordless {σ ν δ κ ρ : Type} [Executor σ κ] [Validator ν κ]
    [Validator δ ρ] (menu : Menu σ ν δ) (before after : List CommandLine) :
    (menu.runBatch (before ++ [] :: after)).succeeded = false := by
  obtain ⟨_, both⟩ := menu.runBatch_append before ([] :: after)
  have failed : ((menu.runBatch before).state.runBatch ([] :: after)).succeeded = false := rfl
  rw [both, failed, Bool.and_false]

namespace Input.LineSource

/-! ## One line of a source -/

theorem newline_not_mem_encodeChars {line : List Char} (oneLine : '\n' ∉ line) :
    newline ∉ encodeChars line := by
  intro member
  obtain ⟨character, present, here⟩ := List.mem_flatMap.mp member
  exact oneLine ((Text.mem_utf8EncodeChar_iff character).mp here ▸ present)

/-- A line with its newline, in the chunks that come first. -/
structure Begins (source : LineSource) (line : List Char) (following : List UInt8)
    (rest : List Chunk) : Prop where
  /-- The line and its newline are read without failure. Some bytes may come with them. -/
  chunks : ∃ front, source.chunks = front ++ rest ∧ Undisturbed front ∧
    delivered front = encodeChars line ++ newline :: following

/-- The source behind a line, which still brings the bytes that came with the line and the
chunks after them. -/
structure IsBehind (later source : LineSource) (following : List UInt8) (rest : List Chunk) :
    Prop where
  chunks : ∃ left, later.chunks = left ++ rest ∧ Undisturbed left ∧ delivered left = following
  prompt : later.prompt = source.prompt
  sink : later.sink = source.showPrompt.sink

/-- **An attempt reads the line that comes first and leaves what is behind it.** -/
theorem attempt_of_begins {source : LineSource} {line : List Char} {following : List UInt8}
    {rest : List Chunk} (oneLine : '\n' ∉ line) (begins : source.Begins line following rest) :
    source.attempt = .ofLineRead (.line (String.ofList (line ++ ['\n']))) ∧
      source.advance.IsBehind source following rest := by
  obtain ⟨front, chunks, quiet, whole⟩ := begins.chunks
  obtain ⟨left, taken, calm, later⟩ :=
    takeLine_append quiet (newline_not_mem_encodeChars oneLine) whole rest
  have written : encodeChars line ++ [newline] = encodeChars (line ++ ['\n']) := by
    rw [encodeChars, encodeChars, List.flatMap_append]
    rfl
  constructor
  · rw [attempt, readLine, chunks, taken, written, ofRaw_encodeChars (by simp)]
  · refine ⟨⟨left, ?_, calm, later⟩, source.prompt_advance, rfl⟩
    rw [advance, readLine, chunks, taken]

/-! ## Passing over a line -/

/-- The source answers as another does, after one warning more. -/
def PassesOver (source later : LineSource) : Prop :=
  ∃ warning : Event, warning.level = .warn ∧
    next source = { next later with events := warning :: (next later).events }

/-- An answer without events comes without a warning. -/
theorem not_passesOver_of_silent {source later : LineSource} (silent : (next source).events = []) :
    ¬ source.PassesOver later := by
  rintro ⟨warning, _, answer⟩
  rw [answer] at silent
  cases silent

/-- What an attempt comes to that reads a line which is not skipped. -/
theorem ofLineRead_of_kept {line : List Char} (kept : isSkippable line = false) :
    Attempt.ofLineRead (.line (String.ofList (line ++ ['\n']))) =
      match split? (String.ofList (line ++ ['\n'])) with
      | some commandLine => .command commandLine
      | none => .unsplittable (String.ofList (line ++ ['\n'])) := by
  have shown : isSkippable (line ++ ['\n']) = false := by
    rw [CommandLine.isSkippable_append_newline, kept]
  rw [Attempt.ofLineRead, String.toList_ofList, shown]
  rfl

theorem passesOver_of_unsplittable {source : LineSource} {line : List Char}
    (kept : isSkippable line = false)
    (attempted : source.attempt = .ofLineRead (.line (String.ofList (line ++ ['\n']))))
    (unsplittable : split? (String.ofList (line ++ ['\n'])) = none) :
    source.PassesOver source.advance := by
  rw [ofLineRead_of_kept kept, unsplittable] at attempted
  have searching : source.attempt.isFinal = false := by
    rw [attempted]
    rfl
  have later := next_of_not_final searching
  rw [attempted] at later
  exact ⟨_, rfl, later⟩

theorem next_of_splittable {source : LineSource} {line : List Char} {commandLine : CommandLine}
    (kept : isSkippable line = false)
    (attempted : source.attempt = .ofLineRead (.line (String.ofList (line ++ ['\n']))))
    (split : split? (String.ofList (line ++ ['\n'])) = some commandLine) :
    next source = ⟨some commandLine, source.advance, []⟩ := by
  rw [ofLineRead_of_kept kept, split] at attempted
  rw [next_of_final (by rw [attempted]; rfl), attempted]
  rfl

/-- **A line that cannot be split is passed over exactly when it does not end after a backslash
outside quotes.** The line is no blank line and no comment, and it comes first in the source,
cut into chunks anywhere; behind it the reader may bring any bytes and fail in any way. Passing
over it means one warning and then the answer of a source that begins behind the line. A line
that ends after such a backslash is handed out instead, with the newline escaped. In a script
the line gives a command line without words in every case, so that the batch of the script
fails in every menu. -/
theorem passesOver_unsplittable_iff {σ ν δ κ ρ : Type} [Executor σ κ] [Validator ν κ]
    [Validator δ ρ] {line : List Char} (oneLine : '\n' ∉ line) (kept : isSkippable line = false)
    (unsplittable : split? (String.ofList line) = none) :
    (∀ (source : LineSource) (following : List UInt8) (rest : List Chunk),
      source.Begins line following rest →
      ∃ later : LineSource, later.IsBehind source following rest ∧
        (source.PassesOver later ↔ ¬ EndsEscaped line) ∧
        (EndsEscaped line → ∃ words, split? (String.ofList (line ++ ['\n'])) = some words ∧
          next source = ⟨some words, later, []⟩)) ∧
    ∀ before after : List Char, (before = [] ∨ ∃ earlier, before = earlier ++ ['\n']) →
      Script.commands (String.ofList (before ++ line ++ '\n' :: after)) =
        Script.commands (String.ofList before) ++ [] :: Script.commands (String.ofList after) ∧
      ∀ menu : Menu σ ν δ,
        (menu.runBatch (Script.commands (String.ofList (before ++ line ++ '\n' :: after)))).succeeded
          = false := by
  have incomplete : splitChars? line = none := by
    rw [← Option.not_isSome_iff_eq_none, ← CommandLine.isSome_split?_ofList, unsplittable]
    exact Bool.false_ne_true
  have newlineSplits := CommandLine.isSome_splitChars?_append_newline_iff incomplete
  rw [← CommandLine.isSome_split?_ofList] at newlineSplits
  constructor
  · intro source following rest begins
    obtain ⟨attempted, behind⟩ := attempt_of_begins oneLine begins
    refine ⟨source.advance, behind, ?_⟩
    by_cases escaped : EndsEscaped line
    · obtain ⟨words, split⟩ := Option.isSome_iff_exists.mp (newlineSplits.mpr escaped)
      have answer := next_of_splittable kept attempted split
      refine ⟨iff_of_false ?_ (not_not_intro escaped), fun _ => ⟨words, split, answer⟩⟩
      exact not_passesOver_of_silent (by rw [answer])
    · have open_ : split? (String.ofList (line ++ ['\n'])) = none := by
        rw [← Option.not_isSome_iff_eq_none]
        exact fun split => escaped (newlineSplits.mp split)
      have passed := passesOver_of_unsplittable kept attempted open_
      exact ⟨iff_of_true passed escaped, fun ends => absurd ends escaped⟩
  · intro before after ended
    have commands : Script.commands (String.ofList (before ++ line ++ '\n' :: after)) =
        Script.commands (String.ofList before) ++ [] :: Script.commands (String.ofList after) := by
      rw [Script.commands_append_line ended oneLine,
        Script.commandOfLine?_of_unsplittable kept incomplete]
      rfl
    refine ⟨commands, fun menu => ?_⟩
    rw [commands]
    exact menu.runBatch_failed_of_wordless _ _

/-- A line that ends after a backslash inside double quotes, cut in the middle and interrupted,
before a line that can be split and a failure. -/
theorem passesOver_open_quote :
    let line := "setdb vendor_code \"AC\\".toList
    let following := Text.encode "help\n"
    let source : LineSource :=
      { chunks :=
          [.bytes ((encodeChars line).take 9), .failure .interrupted "signal",
            .bytes ((encodeChars line).drop 9 ++ newline :: following),
            .failure .other "gone"]
        prompt := some "> " }
    '\n' ∉ line ∧ isSkippable line = false ∧ split? (String.ofList line) = none ∧
      source.Begins line following [.failure .other "gone"] ∧
      (∃ later : LineSource, later.IsBehind source following [.failure .other "gone"] ∧
        source.PassesOver later) ∧
      Script.commands (String.ofList ("Calibrate\n".toList ++ line ++ '\n' :: "help".toList)) =
        [["Calibrate"], [], ["help"]] := by
  intro line following source
  have oneLine : '\n' ∉ line := by decide
  have kept : isSkippable line = false := by decide
  have unsplittable : split? (String.ofList line) = none := by decide
  have begins : source.Begins line following [.failure .other "gone"] := by
    refine ⟨source.chunks.take 3, rfl, ?_, ?_⟩
    · simp [source, Undisturbed, Chunk.isQuiet]
    · simp [source, delivered, Chunk.content, ← List.append_assoc]
  obtain ⟨session, script⟩ :=
    @passesOver_unsplittable_iff Rehearsal.ScriptedExecutor Rehearsal.CountingValidator
      Rehearsal.CountingValidator _ _ _ _ _ line oneLine kept unsplittable
  obtain ⟨later, behind, passed, _⟩ := session source following _ begins
  refine ⟨oneLine, kept, unsplittable, begins, ⟨later, behind, passed.mpr (by decide)⟩, ?_⟩
  rw [(script "Calibrate\n".toList "help".toList (.inr ⟨"Calibrate".toList, rfl⟩)).1]
  decide

/-- A line that ends after a backslash is handed out as if it were whole. -/
theorem next_of_trailing_backslash :
    let line := "exit\\".toList
    let source : LineSource := { chunks := [.bytes (encodeChars line ++ [newline])] }
    '\n' ∉ line ∧ isSkippable line = false ∧ split? (String.ofList line) = none ∧
      source.Begins line [] [] ∧
      next source = ⟨some ["exit"], source.advance, []⟩ ∧
      Script.commands "exit\\\n" = [[]] := by
  intro line source
  have oneLine : '\n' ∉ line := by decide
  have kept : isSkippable line = false := by decide
  have begins : source.Begins line [] [] := by
    refine ⟨source.chunks, (List.append_nil _).symm, ?_, ?_⟩
    · simp [source, Undisturbed, Chunk.isQuiet]
    · simp [source, delivered, Chunk.content]
  have split : split? (String.ofList (line ++ ['\n'])) = some ["exit"] := by decide
  exact ⟨oneLine, kept, by decide, begins,
    next_of_splittable kept (attempt_of_begins oneLine begins).1 split, by decide⟩

end Input.LineSource

end TiltMenu
