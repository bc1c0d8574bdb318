import TiltMenu.Proofs.Input.ScriptAgreement

/-!
# Command lines without words

Skipping a line goes by the blanks of Unicode, splitting it by spaces, tabs and newlines. Every
separator is blank, so what is left of a line that is not skipped begins with a character that
opens a word (`splitChars?_ne_some_nil`): such a line has words or cannot be split.

Hence a command line without words stands in a script for a line that cannot be split and for
nothing else, and there is one warning for each, with the number of the line
(`warnings_eq`). A line source passes over such lines and hands out no command line without
words, whatever its reader delivers and however it fails (`ne_nil_of_next`).
-/

set_option autoImplicit false

namespace TiltMenu

open Log (Event)
open CommandLine (isSkippable split? splitChars?)

/-! ## Lines -/

namespace CommandLine

/-- A separator is blank. -/
theorem isBlank_of_isSeparator {character : Char} (separates : isSeparator character = true) :
    Text.isBlank character = true := by
  simp only [isSeparator, Bool.or_eq_true, beq_iff_eq] at separates
  rcases separates with (rfl | rfl) | rfl
  · rfl
  · rfl
  · rfl

theorem isSkippable_cons_of_blank {first : Char} (blank : Text.isBlank first = true)
    (rest : List Char) : isSkippable (first :: rest) = isSkippable rest := by
  rw [isSkippable, Text.trimStart, List.dropWhile_cons_of_pos blank]
  rfl

/-- **A line that is not skipped has words if it can be split.** -/
theorem splitChars?_ne_some_nil {line : List Char} (kept : isSkippable line = false) :
    splitChars? line ≠ some [] := by
  induction line with
  | nil => cases kept
  | cons first rest ih =>
    rw [splitChars?, splitFrom]
    by_cases separates : isSeparator first = true
    · rw [if_pos separates]
      rw [isSkippable_cons_of_blank (isBlank_of_isSeparator separates)] at kept
      exact ih kept
    · have word : first ≠ '#' := by
        rintro rfl
        cases kept
      rw [if_neg separates, if_neg word, Option.map_map]
      intro wordless
      obtain ⟨split, _, empty⟩ := Option.map_eq_some_iff.mp wordless
      exact List.cons_ne_nil _ _ empty

theorem ne_nil_of_split? {line : String} (kept : isSkippable line.toList = false)
    {commandLine : CommandLine} (split : split? line = some commandLine) : commandLine ≠ [] := by
  rintro rfl
  obtain ⟨words, found, empty⟩ := Option.map_eq_some_iff.mp split
  rw [List.map_eq_nil_iff.mp empty] at found
  exact splitChars?_ne_some_nil kept found

end CommandLine

/-! ## Scripts -/

namespace Script

/-- A line that is not skipped gives a command line without words exactly if it cannot be
split. -/
theorem getD_split?_eq_nil_iff {line : List Char} (kept : isSkippable line = false) :
    (split? (String.ofList line)).getD [] = [] ↔ split? (String.ofList line) = none := by
  cases split : split? (String.ofList line) with
  | none => exact iff_of_true rfl rfl
  | some commandLine =>
    refine iff_of_false ?_ (Option.some_ne_none commandLine)
    exact CommandLine.ne_nil_of_split? (by rwa [String.toList_ofList]) split

/-- **A script has one command line for each line that is not skipped, in order.** -/
theorem commands_eq_map (script : String) :
    commands script =
      ((Text.lines script.toList).filter fun line => !isSkippable line).map
        fun line => (split? (String.ofList line)).getD [] := by
  rw [commands_eq_filterMap, ← List.filterMap_eq_map, List.filterMap_filter]
  refine List.filterMap_congr fun line _ => ?_
  rw [commandOfLine?]
  cases isSkippable line <;> rfl

/-- The numbers of the lines that cannot be split. -/
def unsplittableNumbers (script : String) : List Nat :=
  ((numberedLines script).filter fun numbered =>
    (split? (String.ofList numbered.1)).isNone).map Prod.snd

/-- There is one warning for each of these lines. -/
theorem warnings_eq (script : String) :
    warnings script = (unsplittableNumbers script).map unsplittable := by
  rw [warnings, unsplittableNumbers, List.map_map]
  induction numberedLines script with
  | nil => rfl
  | cons numbered rest ih =>
    rw [List.flatMap_cons, ih, List.filter_cons, commandOf]
    cases split? (String.ofList numbered.1) <;> rfl

/-- Each of them is a warning that names its line. -/
theorem map_warnings (script : String) :
    (warnings script).map (fun event => (event.level, event.detail? "line")) =
      (unsplittableNumbers script).map (fun number => (.warn, some (.number number))) := by
  rw [warnings_eq, List.map_map]
  rfl

/-- There is one command line without words for each of these lines. -/
theorem count_commands (script : String) :
    (commands script).count [] = (unsplittableNumbers script).length := by
  rw [commands, unsplittableNumbers, List.length_map, List.count_eq_countP, List.countP_map,
    ← List.countP_eq_length_filter]
  refine List.countP_congr fun numbered member => ?_
  have kept : isSkippable numbered.1 = false := by
    simpa using (List.mem_filter.mp member).2
  have wordless := getD_split?_eq_nil_iff kept
  rw [Function.comp_apply, commandOf, Option.isNone_iff_eq_none, ← wordless]
  cases split? (String.ofList numbered.1) with
  | none => simp
  | some commandLine => simp

/-- The numbers increase. -/
theorem pairwise_unsplittableNumbers (script : String) :
    (unsplittableNumbers script).Pairwise (· < ·) := by
  have all : (((Text.lines script.toList).zipIdx 1).map Prod.snd).Pairwise (· < ·) := by
    rw [List.zipIdx_map_snd]
    exact List.pairwise_lt_range'
  have part : (unsplittableNumbers script).Sublist
      (((Text.lines script.toList).zipIdx 1).map Prod.snd) :=
    (List.filter_sublist.trans List.filter_sublist).map Prod.snd
  exact all.sublist part

/-- The lines are counted from one, those that are skipped included. -/
theorem mem_unsplittableNumbers_iff (script : String) (number : Nat) :
    number ∈ unsplittableNumbers script ↔
      ∃ place line, number = place + 1 ∧ (Text.lines script.toList)[place]? = some line ∧
        isSkippable line = false ∧ split? (String.ofList line) = none := by
  simp only [unsplittableNumbers, numberedLines, List.mem_map, List.mem_filter,
    List.mem_zipIdx_iff_le_and_getElem?_sub]
  constructor
  · rintro ⟨⟨line, held⟩, ⟨⟨⟨counted, here⟩, kept⟩, open_⟩, rfl⟩
    refine ⟨held - 1, line, (Nat.sub_add_cancel counted).symm, here, ?_, ?_⟩
    · simpa using kept
    · simpa using open_
  · rintro ⟨place, line, rfl, here, kept, open_⟩
    exact ⟨(line, place + 1), ⟨⟨⟨Nat.le_add_left 1 place, here⟩, by simp [kept]⟩,
      by simp [open_]⟩, rfl⟩

end Script

/-! ## Line sources -/

namespace Input.LineSource

/-- An attempt that yields a command line yields words. -/
theorem ne_nil_of_attempt {source : LineSource} {commandLine : CommandLine}
    (yields : source.attempt.commandLine? = some commandLine) : commandLine ≠ [] := by
  obtain ⟨line, way⟩ : ∃ line, Tries line source.attempt := ⟨_, tries (takeLine [] source.chunks).1⟩
  generalize source.attempt = attempt at way yields
  cases way with
  | command _ _ kept split =>
    cases yields
    exact CommandLine.ne_nil_of_split? kept split
  | endOfInput => cases yields
  | malformed => cases yields
  | failed => cases yields
  | undecodable => cases yields
  | skipped => cases yields
  | unsplittable => cases yields

/-- **A line source hands out words only**, whatever its reader delivers. -/
theorem ne_nil_of_next {source : LineSource} {commandLine : CommandLine}
    (found : (next source).commandLine = some commandLine) : commandLine ≠ [] := by
  fun_induction next source with
  | case1 source final => exact ne_nil_of_attempt found
  | case2 source searching later ih => exact ih found

/-- What a line source logs is about no stage of an operation. -/
theorem stage_of_mem_next {source : LineSource} {event : Event}
    (member : event ∈ (next source).events) : event.stage = none := by
  have tried : ∀ attempt : Attempt, event ∈ attempt.events → event.stage = none := by
    intro attempt logged
    cases attempt with
    | failed reason =>
      rw [List.mem_singleton.mp logged]
    | undecodable reason => rw [List.mem_singleton.mp logged]
    | unsplittable line => rw [List.mem_singleton.mp logged]
    | exhausted => cases logged
    | command commandLine => cases logged
    | skipped => cases logged
  fun_induction next source with
  | case1 source final => exact tried _ member
  | case2 source searching later ih =>
    rcases List.mem_append.mp member with here | onward
    · exact tried _ here
    · exact ih onward

end Input.LineSource

end TiltMenu
