import TiltMenu.Proofs.Device.Tilt

/-!
# Reading commands of the device

Every way of reading a command line as a command of the device (`reads`), with the condition
under which it is taken and what comes of it. Only a move has an argument, and only a move is
checked against the store.
-/

set_option autoImplicit false

namespace TiltMenu.Device

/-- The number of arguments that the procedure takes. -/
def Procedure.arity : Procedure → Nat
  | .setTilt => 1
  | .getTilt | .calibrate | .getAlarmStatus | .clearActiveAlarms | .resetSoftware
  | .getInformation => 0

/-- Procedures have different names. -/
theorem Procedure.name_injective : Function.Injective Procedure.name := by
  intro first second same
  cases first <;> cases second <;> simp_all [Procedure.name]

namespace Command

/-- The ways of reading a command line as a command of the device. -/
inductive Reads (store : Store) : CommandLine → Except Fault Command → Prop where
  | empty : Reads store [] (.error .emptyInput)
  | unsupported {name : String} {arguments : List String}
      (unknown : Procedure.ofName? name = none) :
      Reads store (name :: arguments) (.error (.unsupportedCommand name))
  | miscounted {procedure : Procedure} {arguments : List String}
      (count : arguments.length ≠ procedure.arity) :
      Reads store (procedure.name :: arguments)
        (.error (.wrongArity procedure.name procedure.arity arguments.length))
  | moveRefused {raw : String} {fault : Fault} (refused : ofTilt store raw = .error fault) :
      Reads store [Procedure.setTilt.name, raw] (.error fault)
  | move {raw : String} {tilt : Int64} (read : ofTilt store raw = .ok (.setTilt tilt)) :
      Reads store [Procedure.setTilt.name, raw] (.ok (.setTilt tilt))
  | plain {command : Command} (still : command.procedure ≠ .setTilt) :
      Reads store [command.name] (.ok command)

/-- A text that is read as the argument of a move gives a move. -/
theorem eq_setTilt_of_ofTilt {store : Store} {raw : String} {command : Command}
    (read : ofTilt store raw = .ok command) : ∃ tilt, command = .setTilt tilt := by
  obtain ⟨tilt, _, checked⟩ := (ofTilt_eq_ok_iff store raw command).mp read
  exact ⟨tilt, ((checkTilt_eq_ok_iff store tilt command).mp checked).1⟩

/-- Reading a procedure that takes no argument. -/
theorem reads_withoutArguments (store : Store) (command : Command)
    (still : command.procedure ≠ .setTilt) (plain : command.procedure.arity = 0)
    (arguments : List String) :
    Reads store (command.name :: arguments) (withoutArguments command arguments) := by
  cases arguments with
  | nil => exact .plain still
  | cons first rest =>
    have count : (first :: rest).length ≠ command.procedure.arity := by
      rw [plain]
      exact Nat.succ_ne_zero _
    have way : Reads store (command.procedure.name :: first :: rest) _ := .miscounted count
    rw [plain] at way
    exact way

/-- **Every command line is read in one of these ways.** -/
theorem reads (store : Store) (commandLine : CommandLine) :
    Reads store commandLine (parse store commandLine) := by
  cases commandLine with
  | nil => exact .empty
  | cons name arguments =>
    cases known : Procedure.ofName? name with
    | none =>
      simp only [parse, known]
      exact .unsupported known
    | some procedure =>
      simp only [parse, known]
      rw [← Procedure.name_of_ofName? known]
      cases procedure with
      | setTilt =>
        cases arguments with
        | nil =>
          have count : ([] : List String).length ≠ Procedure.setTilt.arity := by decide
          exact .miscounted count
        | cons raw more =>
          cases more with
          | nil =>
            show Reads store _ (ofTilt store raw)
            cases read : ofTilt store raw with
            | error fault => exact .moveRefused read
            | ok command =>
              obtain ⟨tilt, rfl⟩ := eq_setTilt_of_ofTilt read
              exact .move read
          | cons second rest =>
            have count : (raw :: second :: rest).length ≠ Procedure.setTilt.arity := by
              simp [Procedure.arity]
            exact .miscounted count
      | getTilt => exact reads_withoutArguments store .getTilt (by decide) rfl _
      | calibrate => exact reads_withoutArguments store .calibrate (by decide) rfl _
      | getAlarmStatus => exact reads_withoutArguments store .getAlarmStatus (by decide) rfl _
      | clearActiveAlarms =>
        exact reads_withoutArguments store .clearActiveAlarms (by decide) rfl _
      | resetSoftware => exact reads_withoutArguments store .resetSoftware (by decide) rfl _
      | getInformation => exact reads_withoutArguments store .getInformation (by decide) rfl _

/-- **A command is read from a command line that begins with its name.** Only a move has an
argument behind it. -/
theorem commandLine_of_parse {store : Store} {commandLine : CommandLine} {command : Command}
    (read : parse store commandLine = .ok command) :
    (∃ arguments, commandLine = command.name :: arguments) ∧
      (command.procedure ≠ .setTilt → commandLine = [command.name]) := by
  have way := reads store commandLine
  rw [read] at way
  cases way with
  | move parsed => exact ⟨⟨_, rfl⟩, fun still => absurd rfl still⟩
  | plain still => exact ⟨⟨[], rfl⟩, fun _ => rfl⟩

end Command

end TiltMenu.Device
