import TiltMenu.Outcome

/-!
# Executors

An executor runs the commands of the device family. Commands are put into its
queue and run when it is told to execute, in any order of calls (`Executor.Call`).
`Absent` stands for a device that is not there: it discards every command, and
every execution succeeds.
-/

set_option autoImplicit false

namespace TiltMenu

open Log (Event)

/-- Executors of states of type `σ` for commands of type `κ`. -/
class Executor (σ : Type) (κ : outParam Type) where
  /-- Puts commands at the end of the queue. -/
  enqueue : σ → List κ → σ × List Event
  /-- Runs what is queued. -/
  execute : σ → Outcome σ

namespace Executor

variable {σ κ : Type}

/-- What an executor can be told to do. -/
inductive Call (κ : Type) where
  | enqueue (commands : List κ)
  | execute
  deriving DecidableEq, Repr

variable [Executor σ κ]

/-- The executor after a call. -/
def after (executor : σ) : Call κ → σ
  | .enqueue commands => (enqueue executor commands).1
  | .execute => (execute executor).state

/-- The executor after some calls. -/
def afterAll (executor : σ) (calls : List (Call κ)) : σ := calls.foldl after executor

end Executor

/-- No device. It only counts the executions. -/
structure Device.Absent (κ : Type) where
  executions : Nat := 0
  deriving DecidableEq, Repr

namespace Device.Absent

variable {κ : Type}

/-- The event about commands that are discarded. -/
def discarded (count : Nat) : Event where
  level := .debug
  origin := "almag_core::controller::null"
  message := some "Discarding commands"
  details := [("count", .number count)]

instance : Executor (Absent κ) κ where
  enqueue absent commands := (absent, [discarded commands.length])
  execute absent := ⟨true, ⟨absent.executions + 1⟩, []⟩

end Device.Absent

end TiltMenu
