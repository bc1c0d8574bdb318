import TiltMenu.Device.Controller
import TiltMenu.Proofs.CommandLine.Plain
import TiltMenu.Proofs.Device.Reading
import TiltMenu.Proofs.Input.ScriptLines
import TiltMenu.Proofs.Text.Number

/-!
# Commands of the device read back from their text

A command is written as the name of its procedure and, for a move, the tilt in decimal
(`Command.words`). None of these words needs quotes, so the text in which a command is shown is
split into them (`split?_display`), and they are read as the command again if the store admits it
(`parse_words_of_admitted`). A command that was read from any command line is admitted by the store
that it was read against (`admitted_of_parse`), also if its tilt was written with a plus sign or
leading zeros.

So whatever a controller has executed can be written as a script, one command on each line, and is
read back from it (`display_reads_back`).
-/

set_option autoImplicit false

namespace TiltMenu.Device

open CommandLine (split? isPlain IsPlainWord)

/-! ## Words -/

theorem Procedure.isPlainWord_name (procedure : Procedure) :
    IsPlainWord procedure.name.toList := by
  cases procedure <;> exact ⟨by decide, List.all_eq_true.mp (by decide)⟩

/-- **A number is written as a plain word.** -/
theorem isPlainWord_writeInt64 (number : Int64) :
    IsPlainWord (Text.writeInt64 number).toList := by
  have digits : ∀ (size : Nat), ∀ character ∈ Nat.toDigits 10 size, isPlain character = true :=
    fun size character member =>
      CommandLine.isPlain_of_isDigit
        (Nat.isDigit_of_mem_toDigits (by decide) (by decide) member)
  rw [Text.writeInt64]
  by_cases natural : 0 ≤ number.toInt
  · rw [Text.toList_repr_of_nonneg natural]
    exact ⟨Nat.toDigits_ne_nil, digits _⟩
  · rw [Text.toList_repr_of_neg (Int.not_le.mp natural)]
    exact ⟨List.cons_ne_nil _ _, List.forall_mem_cons.mpr ⟨by decide, digits _⟩⟩

namespace Command

/-- The arguments of the command as words. -/
def arguments : Command → List String
  | .setTilt tilt => [Text.writeInt64 tilt]
  | _ => []

/-- The command as words. -/
def words (command : Command) : CommandLine := command.name :: command.arguments

theorem display_eq (command : Command) : command.display = " ".intercalate command.words := by
  cases command <;> rfl

theorem isPlainWord_of_mem_words {command : Command} :
    ∀ word ∈ command.words, IsPlainWord word.toList := by
  refine List.forall_mem_cons.mpr ⟨command.procedure.isPlainWord_name, ?_⟩
  cases command with
  | setTilt tilt => exact List.forall_mem_singleton.mpr (isPlainWord_writeInt64 tilt)
  | getTilt => exact List.forall_mem_nil _
  | calibrate => exact List.forall_mem_nil _
  | getAlarmStatus => exact List.forall_mem_nil _
  | clearActiveAlarms => exact List.forall_mem_nil _
  | resetSoftware => exact List.forall_mem_nil _
  | getInformation => exact List.forall_mem_nil _

/-- **The text in which a command is shown is split into its words.** -/
theorem split?_display (command : Command) : split? command.display = some command.words := by
  rw [display_eq]
  exact CommandLine.split?_intercalate isPlainWord_of_mem_words

/-- The text is a line of a script that carries the words. -/
theorem carries_display (command : Command) :
    Script.Carries command.display.toList command.words := by
  rw [display_eq]
  exact CommandLine.carries_intercalate isPlainWord_of_mem_words (List.cons_ne_nil _ _)

/-! ## Reading the words -/

/-- The store admits the command: a move passes the check of its tilt against the window. -/
def IsAdmitted (store : Store) (command : Command) : Prop :=
  ∀ tilt, command = .setTilt tilt → checkTilt store tilt = .ok command

theorem exists_setTilt_or_still (command : Command) :
    (∃ tilt, command = .setTilt tilt) ∨ command.procedure ≠ .setTilt := by
  cases command with
  | setTilt tilt => exact .inl ⟨tilt, rfl⟩
  | getTilt => exact .inr (by decide)
  | calibrate => exact .inr (by decide)
  | getAlarmStatus => exact .inr (by decide)
  | clearActiveAlarms => exact .inr (by decide)
  | resetSoftware => exact .inr (by decide)
  | getInformation => exact .inr (by decide)

/-- A command that is no move is read from its words against any store. -/
theorem parse_words_of_still (store : Store) {command : Command}
    (still : command.procedure ≠ .setTilt) : parse store command.words = .ok command := by
  cases command with
  | setTilt tilt => exact absurd rfl still
  | getTilt => rfl
  | calibrate => rfl
  | getAlarmStatus => rfl
  | clearActiveAlarms => rfl
  | resetSoftware => rfl
  | getInformation => rfl

/-- A move is read from its words if its tilt passes the check. -/
theorem parse_words_setTilt (store : Store) (tilt : Int64) :
    parse store (words (.setTilt tilt)) = checkTilt store tilt := by
  show ofTilt store (Text.writeInt64 tilt) = checkTilt store tilt
  simp only [ofTilt, Text.readInt64_writeInt64]

/-- **The words of a command are read as the command, if the store admits it.** -/
theorem parse_words_of_admitted {store : Store} {command : Command}
    (admitted : command.IsAdmitted store) : parse store command.words = .ok command := by
  rcases command.exists_setTilt_or_still with ⟨tilt, rfl⟩ | still
  · rw [parse_words_setTilt]
    exact admitted tilt rfl
  · exact parse_words_of_still store still

/-- Otherwise they are not read at all. -/
theorem parse_words_of_not_admitted {store : Store} {command : Command}
    (refused : ¬ command.IsAdmitted store) :
    ∃ fault, parse store command.words = .error fault := by
  rcases command.exists_setTilt_or_still with ⟨tilt, rfl⟩ | still
  · rw [parse_words_setTilt]
    cases checked : checkTilt store tilt with
    | error fault => exact ⟨fault, rfl⟩
    | ok read =>
      obtain rfl := ((checkTilt_eq_ok_iff store tilt read).mp checked).1
      refine absurd ?_ refused
      rintro other ⟨⟩
      exact checked
  · refine absurd ?_ refused
    rintro tilt rfl
    exact absurd rfl still

/-- **A command that was read is admitted by the store that it was read against**, in whatever
form its tilt was written. -/
theorem admitted_of_parse {store : Store} {commandLine : CommandLine} {command : Command}
    (read : parse store commandLine = .ok command) : command.IsAdmitted store := by
  rintro tilt rfl
  obtain ⟨_, _, _, window⟩ := (parse_eq_setTilt_iff store commandLine tilt).mp read
  exact (checkTilt_eq_ok_iff store tilt _).mpr ⟨rfl, window⟩

/-! ## Scripts -/

/-- The script that shows some commands, each on a line of its own. -/
def script (commands : List Command) : String :=
  String.join (commands.map fun command => command.display ++ "\n")

theorem toList_script (commands : List Command) :
    (script commands).toList =
      commands.flatMap fun command => command.display.toList ++ ['\n'] := by
  rw [script, String.toList_join, List.flatMap_map]
  simp only [String.toList_append]
  rfl

/-- **Commands of the device are read back from the text in which they are shown.** The text of any
command is split into one command line, and the validator accepts it as the very command, unless it
is a move whose tilt does not pass the check against the store; then it is turned down. Whatever
command line is accepted as a command begins with the name of the command, and the text of the
command is accepted as this command as well. So the commands that a controller has executed can be
written as a script: it has the command line of each of them, in order, there is no warning about
it, and a validator whose store admits them all reads the same commands back. -/
theorem display_reads_back (rules : Rules) (store : Store) :
    (∀ command : Command, ∃ commandLine, split? command.display = some commandLine ∧
      (command.IsAdmitted store →
        (Validator.inspect rules store commandLine).accepted = some command) ∧
      (¬ command.IsAdmitted store →
        (Validator.inspect rules store commandLine).accepted = none)) ∧
    (∀ (commandLine : CommandLine) (command : Command),
      (Validator.inspect rules store commandLine).accepted = some command →
      commandLine.head? = some command.name ∧
      ∃ again, split? command.display = some again ∧
        (Validator.inspect rules store again).accepted = some command) ∧
    ∀ controller : Controller,
      let commandLines := Script.commands (script controller.executed)
      commandLines.map some = controller.executed.map (fun command => split? command.display) ∧
      Script.warnings (script controller.executed) = [] ∧
      ((∀ command ∈ controller.executed, command.IsAdmitted store) →
        commandLines.map (fun commandLine =>
            (Validator.inspect rules store commandLine).accepted) =
          controller.executed.map some) := by
  have accepted_iff (commandLine : CommandLine) (command : Command) :
      (Validator.inspect rules store commandLine).accepted = some command ↔
        parse store commandLine = .ok command :=
    Verdict.accepted_ofReading_iff rules commandLine _ command
  have accepted_words {command : Command} (admitted : command.IsAdmitted store) :
      (Validator.inspect rules store command.words).accepted = some command :=
    (accepted_iff _ _).mpr (parse_words_of_admitted admitted)
  refine ⟨?shown, ?accepted, ?logged⟩
  case shown =>
    intro command
    refine ⟨command.words, command.split?_display, accepted_words, ?_⟩
    intro refused
    obtain ⟨fault, unread⟩ := parse_words_of_not_admitted refused
    rw [Option.eq_none_iff_forall_ne_some]
    intro other accepted
    rw [accepted_iff, unread] at accepted
    cases accepted
  case accepted =>
    intro commandLine command accepted
    have read := (accepted_iff commandLine command).mp accepted
    obtain ⟨⟨arguments, rfl⟩, _⟩ := commandLine_of_parse read
    exact ⟨rfl, command.words, command.split?_display, accepted_words (admitted_of_parse read)⟩
  case logged =>
    intro controller commandLines
    have carries : ∀ command ∈ controller.executed,
        Script.Carries command.display.toList command.words := fun command _ =>
      command.carries_display
    have spelled := toList_script controller.executed
    have read : commandLines = controller.executed.map words :=
      Script.commands_of_carries carries spelled
    refine ⟨?_, Script.warnings_of_carries carries spelled, ?_⟩
    · rw [read, List.map_map]
      exact List.map_congr_left fun command _ => command.split?_display.symm
    · intro admitted
      rw [read, List.map_map]
      exact List.map_congr_left fun command member => accepted_words (admitted command member)

end Command

end TiltMenu.Device
