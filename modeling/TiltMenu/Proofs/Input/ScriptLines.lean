import TiltMenu.Proofs.Input.ScriptAgreement

/-!
# Scripts with one command line on each line

A line carries a command line if it is split into it and can stand in a script as it is: it has no
newline, it is neither blank nor a comment, and it does not end in a carriage return, which would
be dropped with the newline (`Carries`).

A script whose lines carry command lines, each with a newline behind it, has these command lines
(`commands_of_carries`), and there is no warning about it (`warnings_of_carries`).
-/

set_option autoImplicit false

namespace TiltMenu.Script

open Text (pieces dropTerminator)
open CommandLine (isSkippable split?)

/-- The line can stand in a script as it is and carries the command line. -/
structure Carries (line : List Char) (commandLine : CommandLine) : Prop where
  oneLine : '\n' ∉ line
  ending : line.getLast? ≠ some '\r'
  kept : isSkippable line = false
  split : split? (String.ofList line) = some commandLine

/-- The newline behind the line is its whole terminator. -/
theorem Carries.dropTerminator_eq {line : List Char} {commandLine : CommandLine}
    (carries : Carries line commandLine) : dropTerminator (line ++ ['\n']) = line := by
  rcases Text.dropTerminator_newline line with same | ⟨body, rfl, _⟩
  · exact same
  · exact absurd List.getLast?_concat carries.ending

section Writing

variable {α : Type} {items : List α} {line : α → List Char} {commandLine : α → CommandLine}
  {script : String} (carries : ∀ item ∈ items, Carries (line item) (commandLine item))
  (spelled : script.toList = items.flatMap fun item => line item ++ ['\n'])

include carries spelled

/-- The script is cut behind each of its lines. -/
theorem pieces_of_carries :
    pieces (· == '\n') script.toList = items.map fun item => line item ++ ['\n'] := by
  rw [spelled]
  clear spelled
  induction items with
  | nil => rfl
  | cons first rest ih =>
    obtain ⟨here, later⟩ := List.forall_mem_cons.mp carries
    rw [List.flatMap_cons, List.append_assoc, List.singleton_append,
      Text.pieces_append_end (Text.inside_of_not_mem here.oneLine) rfl, ih later]
    rfl

theorem lines_of_carries : Text.lines script.toList = items.map line := by
  rw [Text.lines, pieces_of_carries carries spelled, List.map_map]
  exact List.map_congr_left fun item member => (carries item member).dropTerminator_eq

/-- **A script has the command lines that its lines carry**, in order. -/
theorem commands_of_carries : commands script = items.map commandLine := by
  rw [commands_eq_filterMap, lines_of_carries carries spelled, List.filterMap_map,
    ← List.filterMap_eq_map]
  refine List.filterMap_congr fun item member => ?_
  rw [Function.comp_apply, commandOfLine?, (carries item member).kept, (carries item member).split]
  rfl

/-- **There is no warning about it.** -/
theorem warnings_of_carries : warnings script = [] := by
  rw [warnings, List.flatMap_eq_nil_iff]
  intro numbered member
  have held : numbered.1 ∈ items.map line := by
    rw [← lines_of_carries carries spelled]
    exact List.fst_mem_of_mem_zipIdx (List.mem_filter.mp member).1
  obtain ⟨item, listed, same⟩ := List.mem_map.mp held
  rw [commandOf, ← same, (carries item listed).split]

end Writing

end TiltMenu.Script
