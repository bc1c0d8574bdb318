import TiltMenu.CommandLine.Words
import TiltMenu.Log.Event

/-!
# Sources of command lines

A source hands out command lines one at a time until it is exhausted. It holds
finitely many: a measure of what is left drops with every command line handed
out, so a session over any source ends.

A `Replay` hands out a given list, command lines without words included.
-/

set_option autoImplicit false

namespace TiltMenu.Input

open Log (Event)

/-- The answer of a source that was asked for a command line. -/
structure Reading (σ : Type) where
  /-- The command line, or nothing once the source is exhausted. -/
  commandLine : Option CommandLine
  source : σ
  events : List Event
  deriving DecidableEq, Repr

/-- A source of finitely many command lines. -/
class Source (σ : Type) where
  /-- Asks for the next command line. -/
  next : σ → Reading σ
  /-- A bound for the command lines left. -/
  left : σ → Nat
  left_next_lt : ∀ source : σ, (next source).commandLine.isSome →
    left (next source).source < left source

/-- A list of command lines to hand out, and how many were handed out before. -/
structure Replay where
  remaining : List CommandLine
  reads : Nat := 0
  deriving DecidableEq, Repr

namespace Replay

/-- Hands out the first command line of the list. -/
def next (replay : Replay) : Reading Replay :=
  match replay.remaining with
  | [] => ⟨none, replay, []⟩
  | first :: rest => ⟨some first, ⟨rest, replay.reads + 1⟩, []⟩

instance : Source Replay where
  next := next
  left replay := replay.remaining.length
  left_next_lt replay handed := by
    unfold next at handed ⊢
    split
    · next empty => simp [empty] at handed
    · next first rest nonempty => simp [nonempty]

end Replay

end TiltMenu.Input
