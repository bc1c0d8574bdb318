import TiltMenu.CommandLine.Script
import TiltMenu.Input.Reader
import TiltMenu.Input.Source

/-!
# Command lines from a reader

A line source reads lines and splits them into words. Lines without a command
are passed over in silence, lines that cannot be decoded or split with a
warning; a failing reader and the end of the input end the source. A prompt is
shown before every attempt to read a line. A sink that refuses the prompt does
not disturb the reading.
-/

set_option autoImplicit false

namespace TiltMenu.Input

open Log (Event)

/-- Where prompts go. -/
structure PromptSink where
  /-- Whether the sink takes what is written to it. -/
  working : Bool := true
  /-- What was written so far. -/
  written : String := ""
  deriving DecidableEq, Repr

/-- Writes a text to the sink. What a broken sink refuses is lost. -/
def PromptSink.write (sink : PromptSink) (text : String) : PromptSink :=
  if sink.working then { sink with written := sink.written ++ text } else sink

/-- A reader with the prompt to show before each line. -/
structure LineSource where
  chunks : List Chunk
  prompt : Option String := none
  sink : PromptSink := {}
  deriving DecidableEq, Repr

namespace LineSource

/-- What one attempt to read a command line came to. -/
inductive Attempt where
  | exhausted
  | failed (reason : String)
  | command (commandLine : CommandLine)
  /-- The line carries no command. -/
  | skipped
  | undecodable (reason : String)
  | unsplittable (line : String)
  deriving DecidableEq, Repr

namespace Attempt

/-- What reading a line comes to. The line is split with its newline. -/
def ofLineRead : LineRead → Attempt
  | .endOfInput => .exhausted
  | .failed reason => .failed reason
  | .undecodable reason => .undecodable reason
  | .line text =>
    if CommandLine.isSkippable text.toList then .skipped
    else match CommandLine.split? text with
      | some commandLine => .command commandLine
      | none => .unsplittable text

/-- The source is asked no further: it has an answer. -/
def isFinal : Attempt → Bool
  | .exhausted | .failed _ | .command _ => true
  | .skipped | .undecodable _ | .unsplittable _ => false

/-- The source hands out nothing after the attempt: its input has ended. -/
def endsInput : Attempt → Bool
  | .exhausted | .failed _ => true
  | .command _ | .skipped | .undecodable _ | .unsplittable _ => false

/-- The command line that the attempt yields. -/
def commandLine? : Attempt → Option CommandLine
  | .command commandLine => some commandLine
  | _ => none

/-- What is logged about the attempt. -/
def events : Attempt → List Event
  | .failed reason =>
    [{ level := .error, origin := CommandLine.origin,
       message := some "Failed to read input line", details := [("error", .text reason)] }]
  | .undecodable reason =>
    [{ level := .warn, origin := CommandLine.origin,
       message := some "Input line is not valid UTF-8, line ignored",
       details := [("error", .text reason)] }]
  | .unsplittable line =>
    [{ level := .warn, origin := CommandLine.origin,
       message := some "Unterminated quote or escape, line ignored",
       details := [("line", .text (String.ofList (Text.trimEnd line.toList)))] }]
  | .exhausted | .command _ | .skipped => []

end Attempt

/-- Shows the prompt, if there is one. -/
def showPrompt (source : LineSource) : LineSource :=
  match source.prompt with
  | none => source
  | some prompt => { source with sink := source.sink.write prompt }

/-- What the next line comes to. -/
def attempt (source : LineSource) : Attempt := .ofLineRead (readLine source.chunks).1

/-- The source after an attempt to read a line. -/
def advance (source : LineSource) : LineSource :=
  { source.showPrompt with chunks := (readLine source.chunks).2 }

/-- An attempt that is not final has taken a line. -/
theorem weight_advance_lt (source : LineSource) (going : source.attempt ≠ .exhausted) :
    weight source.advance.chunks < weight source.chunks := by
  apply weight_readLine_lt
  intro ended
  exact going (by simp [attempt, Attempt.ofLineRead, ended])

/-- Reads lines up to the first that ends the search. -/
def next (source : LineSource) : Reading LineSource :=
  if source.attempt.isFinal then
    ⟨source.attempt.commandLine?, source.advance, source.attempt.events⟩
  else
    let later := next source.advance
    { later with events := source.attempt.events ++ later.events }
termination_by weight source.chunks
decreasing_by
  rename_i searching
  apply weight_advance_lt
  intro ended
  simp [ended, Attempt.isFinal] at searching

/-- A source that yields a command line has read at least that line. -/
theorem weight_next_lt (source : LineSource) (handed : (next source).commandLine.isSome) :
    weight (next source).source.chunks < weight source.chunks := by
  fun_induction next source with
  | case1 source final =>
    apply weight_advance_lt
    intro ended
    simp [ended, Attempt.commandLine?] at handed
  | case2 source final later ih =>
    refine Nat.lt_trans (ih handed) (weight_advance_lt source ?_)
    intro ended
    simp [ended, Attempt.isFinal] at final

instance : Source LineSource where
  next := next
  left source := weight source.chunks
  left_next_lt := weight_next_lt

end LineSource

end TiltMenu.Input
