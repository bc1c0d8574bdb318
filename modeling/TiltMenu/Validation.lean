import TiltMenu.CommandLine.Words
import TiltMenu.Log.Event
import TiltMenu.Store.Request

/-!
# Validation

Before a command line is run it is inspected by the validator of its family,
which accepts it in normal form or turns it down. Being turned down is ordinary:
it is logged with the reason and is no failure of the menu.

A validator may keep a state of its own, such as a count of its inspections.
-/

set_option autoImplicit false

namespace TiltMenu

open Log (Event)

/-- What comes of inspecting a command line. -/
structure Verdict (ν κ : Type) where
  /-- The command in normal form, if the validator accepts it. -/
  accepted : Option κ
  /-- The validator after the inspection. -/
  validator : ν
  events : List Event

/-- Validators of states of type `ν` for commands of type `κ`. -/
class Validator (ν : Type) (κ : outParam Type) where
  /-- Inspects a command line against the store. -/
  inspect : ν → Store → CommandLine → Verdict ν κ

/-- The warning about a command line that was turned down. -/
def rejected (commandLine : CommandLine) (reason : Fault) : Event where
  level := .warn
  origin := "almag_core::validation"
  component := some "almag_core::validation"
  operation := some "validate"
  command := some (commandLine.headD "")
  message := some "Rejected command"
  details := [("reason", .text reason.message)]

/-- The verdict of a validator that reads command lines and turns down those it
cannot read. -/
def Verdict.ofReading {ν κ : Type} (validator : ν) (commandLine : CommandLine) :
    Except Fault κ → Verdict ν κ
  | .ok command => ⟨some command, validator, []⟩
  | .error fault => ⟨none, validator, [rejected commandLine fault]⟩

namespace Verdict

variable {ν κ : Type} {validator : ν} {commandLine : CommandLine} {reading : Except Fault κ}

/-- A validator that reads command lines accepts exactly those it can read. -/
theorem accepted_ofReading_iff (validator : ν) (commandLine : CommandLine)
    (reading : Except Fault κ) (command : κ) :
    (ofReading validator commandLine reading).accepted = some command ↔ reading = .ok command := by
  cases reading <;> simp [ofReading]

/-- It says nothing about those that it accepts. -/
theorem events_of_accepted {command : κ}
    (accepted : (ofReading validator commandLine reading).accepted = some command) :
    (ofReading validator commandLine reading).events = [] := by
  cases reading with
  | ok read => rfl
  | error fault => cases accepted

/-- It warns once about those that it turns down. -/
theorem events_of_rejected
    (turnedDown : (ofReading validator commandLine reading).accepted = none) :
    ∃ fault, (ofReading validator commandLine reading).events = [rejected commandLine fault] := by
  cases reading with
  | ok read => cases turnedDown
  | error fault => exact ⟨fault, rfl⟩

/-- It says nothing else. -/
theorem eq_rejected_of_mem {event : Event}
    (member : event ∈ (ofReading validator commandLine reading).events) :
    ∃ fault, event = rejected commandLine fault := by
  cases reading with
  | ok read => cases member
  | error fault => exact ⟨fault, List.mem_singleton.mp member⟩

end Verdict

/-- The validator of the store family. -/
structure Store.Rules where
  deriving DecidableEq, Repr

instance : Validator Store.Rules Store.Request where
  inspect rules store commandLine :=
    .ofReading rules commandLine (Store.Request.parse store commandLine)

end TiltMenu
