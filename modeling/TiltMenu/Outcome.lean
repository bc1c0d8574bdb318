import TiltMenu.Log.Event

/-!
# Outcomes

An operation takes a state to an outcome: whether it succeeded, the state it
leaves and the events to log. Operations are put in sequence without stopping
at a failure; a sequence succeeds if each of its operations does.

Running a list and then another is running their concatenation
(`runAll_append`).
-/

set_option autoImplicit false

namespace TiltMenu

open Log (Event)

/-- What an operation on states of type `σ` leaves behind. -/
@[ext]
structure Outcome (σ : Type) where
  succeeded : Bool
  state : σ
  events : List Event := []

namespace Outcome

variable {σ τ α : Type}

/-- Doing nothing succeeds. -/
def idle (state : σ) : Outcome σ := ⟨true, state, []⟩

/-- The outcome with further events before its own. -/
def logFirst (events : List Event) (outcome : Outcome σ) : Outcome σ :=
  { outcome with events := events ++ outcome.events }

/-- The outcome with its state seen as a part of a larger one. -/
def mapState (view : σ → τ) (outcome : Outcome σ) : Outcome τ :=
  ⟨outcome.succeeded, view outcome.state, outcome.events⟩

/-- Goes on from the state left, whether or not the operation succeeded. -/
def andThen (first : Outcome σ) (next : σ → Outcome σ) : Outcome σ :=
  let second := next first.state
  ⟨first.succeeded && second.succeeded, second.state, first.events ++ second.events⟩

/-- Every operation of a list, one after another. -/
def runAll (step : σ → α → Outcome σ) (state : σ) : List α → Outcome σ
  | [] => idle state
  | first :: rest => (step state first).andThen fun next => runAll step next rest

@[simp]
theorem andThen_idle (outcome : Outcome σ) : outcome.andThen idle = outcome := by
  simp [andThen, idle]

@[simp]
theorem idle_andThen (state : σ) (next : σ → Outcome σ) :
    (idle state).andThen next = next state := by
  simp [andThen, idle]

theorem andThen_assoc (first : Outcome σ) (second third : σ → Outcome σ) :
    (first.andThen second).andThen third =
      first.andThen fun state => (second state).andThen third := by
  simp [andThen, Bool.and_assoc, List.append_assoc]

/-- Running a concatenation is running its two parts one after the other. -/
theorem runAll_append (step : σ → α → Outcome σ) (state : σ) (first second : List α) :
    runAll step state (first ++ second) =
      (runAll step state first).andThen fun next => runAll step next second := by
  induction first generalizing state with
  | nil => simp [runAll]
  | cons head rest ih => simp only [List.cons_append, runAll, andThen_assoc, ih]

end Outcome

end TiltMenu
