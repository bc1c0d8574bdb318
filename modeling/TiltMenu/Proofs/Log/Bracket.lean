import TiltMenu.Outcome

/-!
# Bracketed operations

An operation that can fail logs an event when it begins and another when it ends, and the
second says whether it succeeded (`Event.Opens`, `Event.Closes`). In between it may log
notices. An outcome is bracketed when its events are those of one such operation
(`Outcome.Brackets`). It failed exactly if one of its events tells of a failure
(`Outcome.Brackets.failed_iff`).

A log that ends with an operation and names it nowhere before keeps this property when events
of other operations are put in front (`EndsWith`, `Outcome.Brackets.endsWith`).
-/

set_option autoImplicit false

namespace TiltMenu

namespace Log

/-! ## Events of an operation -/

namespace Event

/-- The event begins the operation. -/
structure Opens (operation : String) (event : Event) : Prop where
  level : event.level = .info
  operation : event.operation = some operation
  stage : event.stage = some Stage.start

/-- The event ends the operation, well or with a fault. -/
structure Closes (operation : String) (succeeded : Bool) (event : Event) : Prop where
  level : event.level = if succeeded then .info else .error
  operation : event.operation = some operation
  stage : event.stage = some (if succeeded then Stage.finish else Stage.failure)

/-- The event tells why a session ends: it is an error, or the exit action. -/
def TellsFailure (event : Event) : Prop := event.level = .error ∨ event.stage = some Stage.exit

instance (event : Event) : Decidable event.TellsFailure :=
  inferInstanceAs (Decidable (_ ∨ _))

variable {event : Event} {operation : String} {succeeded : Bool}

theorem IsNotice.not_tellsFailure (notice : event.IsNotice) : ¬ event.TellsFailure := by
  simp [TellsFailure, notice.level, notice.stage]

theorem Opens.not_tellsFailure (opens : event.Opens operation) : ¬ event.TellsFailure := by
  simp [TellsFailure, opens.level, opens.stage, Stage.start, Stage.exit]

theorem Closes.tellsFailure_iff (closes : event.Closes operation succeeded) :
    event.TellsFailure ↔ succeeded = false := by
  cases succeeded with
  | true => simp [TellsFailure, closes.level, closes.stage, Stage.finish, Stage.exit]
  | false => simp [TellsFailure, closes.level]

end Event

/-- The log ends with one operation, which nothing before it and nothing within it names: it
begins, and the last event ends it, well or not. -/
def EndsWith (operation : String) (succeeded : Bool) (events : List Event) : Prop :=
  ∃ before opening shown closing, events = before ++ opening :: (shown ++ [closing]) ∧
    opening.Opens operation ∧ closing.Closes operation succeeded ∧
    ∀ event ∈ before ++ shown, event.operation ≠ some operation

end Log

/-! ## Outcomes of an operation -/

namespace Outcome

open Log (Event)

variable {σ : Type}

/-- The events of the outcome are those of one operation: it begins, shows notices, and ends
as the outcome succeeds or not. -/
def Brackets (operation : String) (outcome : Outcome σ) : Prop :=
  ∃ opening shown closing, outcome.events = opening :: (shown ++ [closing]) ∧
    opening.Opens operation ∧ (∀ event ∈ shown, event.IsNotice) ∧
    closing.Closes operation outcome.succeeded

namespace Brackets

variable {operation : String} {outcome : Outcome σ}

theorem mem_cases (brackets : outcome.Brackets operation) {event : Event}
    (member : event ∈ outcome.events) :
    event.Opens operation ∨ event.IsNotice ∨ event.Closes operation outcome.succeeded := by
  obtain ⟨opening, shown, closing, events, opens, notices, closes⟩ := brackets
  rw [events, List.mem_cons, List.mem_append, List.mem_singleton] at member
  rcases member with rfl | between | rfl
  · exact .inl opens
  · exact .inr (.inl (notices event between))
  · exact .inr (.inr closes)

/-- **A bracketed outcome failed exactly if one of its events tells of a failure.** -/
theorem failed_iff (brackets : outcome.Brackets operation) :
    outcome.succeeded = false ↔ ∃ event ∈ outcome.events, event.TellsFailure := by
  constructor
  · intro failed
    obtain ⟨opening, shown, closing, events, _, _, closes⟩ := brackets
    refine ⟨closing, ?_, closes.tellsFailure_iff.mpr failed⟩
    simp [events]
  · rintro ⟨event, member, tells⟩
    rcases brackets.mem_cases member with opens | notice | closes
    · exact absurd tells opens.not_tellsFailure
    · exact absurd tells notice.not_tellsFailure
    · exact closes.tellsFailure_iff.mp tells

/-- The stages of a bracketed outcome are those of an operation. -/
theorem stage_cases (brackets : outcome.Brackets operation) {event : Event}
    (member : event ∈ outcome.events) :
    event.stage = none ∨ event.stage = some Log.Stage.start ∨
      event.stage = some Log.Stage.finish ∨ event.stage = some Log.Stage.failure := by
  rcases brackets.mem_cases member with opens | notice | closes
  · exact .inr (.inl opens.stage)
  · exact .inl notice.stage
  · rw [closes.stage]
    cases outcome.succeeded with
    | true => exact .inr (.inr (.inl rfl))
    | false => exact .inr (.inr (.inr rfl))

/-- **Behind events of other operations a log ends with the operation of the outcome.** -/
theorem endsWith (brackets : outcome.Brackets operation) {before : List Event}
    (foreign : ∀ event ∈ before, event.operation ≠ some operation) :
    Log.EndsWith operation outcome.succeeded (before ++ outcome.events) := by
  obtain ⟨opening, shown, closing, events, opens, notices, closes⟩ := brackets
  refine ⟨before, opening, shown, closing, by rw [events], opens, closes, ?_⟩
  intro event member
  rcases List.mem_append.mp member with earlier | between
  · exact foreign event earlier
  · simp [(notices event between).operation]

end Brackets

end Outcome

end TiltMenu
