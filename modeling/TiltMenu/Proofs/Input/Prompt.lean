import Mathlib.Logic.Function.Iterate
import TiltMenu.Proofs.Input.Answers

/-!
# Prompting

A request to a line source reads line after line. It passes over those that carry no command line
(`RawLine.IsPassedOver`) and stops at the first that decides the answer (`RawLine.Decides`): a line
that carries a command line, the end of the input, or a failure of the reader.

Which lines these are, and what is logged about them, does not depend on the prompt or on the sink
to which it is written (`LineSource.answers_congr`). What is written is the prompt, once for each
line (`LineSource.sink_iterate_advance`), also for the one that decides the answer
(`prompting_is_harmless_and_exact`).
-/

set_option autoImplicit false

namespace TiltMenu.Input

open CommandLine (isSkippable split?)
open LineSource (Attempt)

/-! ## Lines that are passed over -/

/-- The line carries no command line, and the source goes on behind it: the reader calls its data
malformed, its bytes are no text, it is blank or a comment, or it cannot be split. -/
inductive RawLine.IsPassedOver : RawLine → Prop where
  | malformed (reason : String) : IsPassedOver (.failed .invalidData reason)
  | undecodable {line : List UInt8} (nonempty : line ≠ []) (noText : Text.decode? line = none) :
      IsPassedOver (.bytes line)
  | skippable {line : List UInt8} {text : String} (nonempty : line ≠ [])
      (decoded : Text.decode? line = some text) (skippable : isSkippable text.toList = true) :
      IsPassedOver (.bytes line)
  | unsplittable {line : List UInt8} {text : String} (nonempty : line ≠ [])
      (decoded : Text.decode? line = some text) (kept : isSkippable text.toList = false)
      (unsplit : split? text = none) : IsPassedOver (.bytes line)

/-- The line decides the answer: there is nothing left to read, the reader fails, or the line
carries the command line that is handed out. -/
inductive RawLine.Decides : RawLine → Option CommandLine → Prop where
  | endOfInput : Decides (.bytes []) none
  | failed {kind : Failure} (reason : String) (fatal : kind ≠ .invalidData) :
      Decides (.failed kind reason) none
  | command {line : List UInt8} {text : String} {commandLine : CommandLine} (nonempty : line ≠ [])
      (decoded : Text.decode? line = some text) (kept : isSkippable text.toList = false)
      (split : split? text = some commandLine) : Decides (.bytes line) (some commandLine)

/-- **A line is passed over, or it decides the answer.** -/
theorem RawLine.passedOver_or_decides (line : RawLine) :
    (Attempt.ofLineRead (.ofRaw line)).isFinal = false ∧ line.IsPassedOver ∨
      (Attempt.ofLineRead (.ofRaw line)).isFinal = true ∧
        line.Decides (Attempt.ofLineRead (.ofRaw line)).commandLine? := by
  have way := LineSource.tries line
  generalize Attempt.ofLineRead (.ofRaw line) = attempt at way ⊢
  cases way with
  | endOfInput => exact .inr ⟨rfl, .endOfInput⟩
  | malformed reason => exact .inl ⟨rfl, .malformed reason⟩
  | failed reason fatal => exact .inr ⟨rfl, .failed reason fatal⟩
  | undecodable nonempty noText => exact .inl ⟨rfl, .undecodable nonempty noText⟩
  | skipped nonempty decoded skips => exact .inl ⟨rfl, .skippable nonempty decoded skips⟩
  | unsplittable nonempty decoded kept unsplit =>
    exact .inl ⟨rfl, .unsplittable nonempty decoded kept unsplit⟩
  | command nonempty decoded kept split => exact .inr ⟨rfl, .command nonempty decoded kept split⟩

/-! ## Sinks -/

namespace PromptSink

theorem written_write {sink : PromptSink} (works : sink.working = true) (text : String) :
    (sink.write text).written = sink.written ++ text := by
  rw [write, if_pos works]

theorem write_of_broken {sink : PromptSink} (broken : sink.working = false) (text : String) :
    sink.write text = sink := by
  rw [write, if_neg (by simp [broken])]

theorem working_write (sink : PromptSink) (text : String) :
    (sink.write text).working = sink.working := by
  unfold write
  split <;> rfl

/-- A sink takes two texts as it takes them together. -/
theorem write_write (sink : PromptSink) (first second : String) :
    (sink.write first).write second = sink.write (first ++ second) := by
  unfold write
  cases working : sink.working <;> simp [working, String.append_assoc]

end PromptSink

/-! ## The lines of a reader -/

/-- What a reader has left after some lines were taken. -/
def leftAfter (chunks : List Chunk) (count : Nat) : List Chunk :=
  (fun left => (takeLine [] left).2)^[count] chunks

/-- The line that is taken after so many others. -/
def lineAt (chunks : List Chunk) (index : Nat) : RawLine := (takeLine [] (leftAfter chunks index)).1

/-- A request passes over some lines, the next one decides the answer, and the reader is left
behind that line. -/
structure StopsAfter (chunks : List Chunk) (answer : Reading LineSource) (skipped : Nat) :
    Prop where
  passedOver : ∀ index < skipped, (lineAt chunks index).IsPassedOver
  decides : (lineAt chunks skipped).Decides answer.commandLine
  left : answer.source.chunks = leftAfter chunks (skipped + 1)

namespace LineSource

/-- **A request is answered by as many attempts as there are lines up to the one that decides.** -/
theorem exists_stopsAfter (source : LineSource) :
    ∃ skipped, StopsAfter source.chunks (next source) skipped ∧
      (next source).source = advance^[skipped + 1] source := by
  fun_induction next source with
  | case1 source final =>
    rcases RawLine.passedOver_or_decides (takeLine [] source.chunks).1 with
      ⟨searching, _⟩ | ⟨_, decides⟩
    · exact absurd (final.symm.trans searching) (by decide)
    · exact ⟨0, ⟨fun index none_ => absurd none_ (Nat.not_lt_zero index), decides, rfl⟩, rfl⟩
  | case2 source searching later ih =>
    obtain ⟨skipped, ⟨passedOver, decides, left⟩, reached⟩ := ih
    rcases RawLine.passedOver_or_decides (takeLine [] source.chunks).1 with ⟨_, first⟩ | ⟨final, _⟩
    · refine ⟨skipped + 1, ⟨?_, decides, left⟩, reached⟩
      intro index inside
      cases index with
      | zero => exact first
      | succ index => exact passedOver index (Nat.lt_of_succ_lt_succ inside)
    · exact absurd final searching

/-! ## What is written -/

theorem prompt_iterate_advance (source : LineSource) (count : Nat) :
    (advance^[count] source).prompt = source.prompt := by
  induction count generalizing source with
  | zero => rfl
  | succ count ih => rw [Function.iterate_succ_apply, ih, prompt_advance]

/-- The sink of the source after so many prompts. -/
def sinkAfter (source : LineSource) (count : Nat) : PromptSink :=
  match source.prompt with
  | none => source.sink
  | some text => source.sink.write (String.join (List.replicate count text))

theorem working_sinkAfter (source : LineSource) (count : Nat) :
    (source.sinkAfter count).working = source.sink.working := by
  unfold sinkAfter
  split
  · rfl
  · exact source.sink.working_write _

/-- **Every attempt writes the prompt once.** -/
theorem sink_iterate_advance (source : LineSource) (count : Nat) :
    (advance^[count] source).sink = source.sinkAfter count := by
  induction count generalizing source with
  | zero =>
    unfold sinkAfter
    cases source.prompt with
    | none => rfl
    | some text => simp [PromptSink.write]
  | succ count ih =>
    rw [Function.iterate_succ_apply, ih]
    cases asked : source.prompt with
    | none => simp only [sinkAfter, advance, showPrompt, asked]
    | some text =>
      simp only [sinkAfter, advance, showPrompt, asked, PromptSink.write_write,
        List.replicate_succ, String.join_cons]

/-! ## Sources over the same reader -/

theorem attempt_congr {first second : LineSource} (same : first.chunks = second.chunks) :
    first.attempt = second.attempt := by
  rw [attempt, attempt, same]

theorem chunks_advance_congr {first second : LineSource} (same : first.chunks = second.chunks) :
    first.advance.chunks = second.advance.chunks := by
  rw [advance, advance, same]

/-- **A request is answered from the reader alone.** Neither the prompt nor the sink change the
answer, its events or what the reader has left. -/
theorem next_congr {first second : LineSource} (same : first.chunks = second.chunks) :
    (next first).commandLine = (next second).commandLine ∧
      (next first).events = (next second).events ∧
      (next first).source.chunks = (next second).source.chunks := by
  induction first using next.induct generalizing second with
  | case1 first final =>
    have attempted := attempt_congr same
    rw [next_of_final final, next_of_final (attempted ▸ final), attempted]
    exact ⟨rfl, rfl, chunks_advance_congr same⟩
  | case2 first searching ih =>
    have attempted := attempt_congr same
    rw [Bool.not_eq_true] at searching
    have alsoSearching : second.attempt.isFinal = false := attempted ▸ searching
    obtain ⟨commandLine, events, left⟩ := ih (chunks_advance_congr same)
    rw [next_of_not_final searching, next_of_not_final alsoSearching, attempted]
    exact ⟨commandLine, congrArg (second.attempt.events ++ ·) events, left⟩

/-- Sources over the same reader answer alike, however often they are asked. -/
theorem answers_congr {first second : LineSource} (same : first.chunks = second.chunks)
    (count : Nat) :
    (answers first count).map (·.commandLine) = (answers second count).map (·.commandLine) ∧
      (answers first count).map (·.events) = (answers second count).map (·.events) := by
  induction count generalizing first second with
  | zero => exact ⟨rfl, rfl⟩
  | succ count ih =>
    obtain ⟨commandLine, events, left⟩ := next_congr same
    obtain ⟨commandLines, logged⟩ := ih left
    exact ⟨List.cons_eq_cons.mpr ⟨commandLine, commandLines⟩,
      List.cons_eq_cons.mpr ⟨events, logged⟩⟩

end LineSource

/-! ## Requests one after the other -/

/-- The source after it was asked a number of times. -/
def asked (source : LineSource) : Nat → LineSource
  | 0 => source
  | count + 1 => asked (Source.next source).source count

/-- The last answer is that of the source as the requests before have left it. -/
theorem answers_succ (source : LineSource) (count : Nat) :
    answers source (count + 1) = answers source count ++ [Source.next (asked source count)] := by
  induction count generalizing source with
  | zero => rfl
  | succ count ih =>
    rw [answers, ih, answers, List.cons_append]
    rfl

/-- Sources over the same reader leave it alike. -/
theorem chunks_asked_congr {first second : LineSource} (same : first.chunks = second.chunks)
    (count : Nat) : (asked first count).chunks = (asked second count).chunks := by
  induction count generalizing first second with
  | zero => exact same
  | succ count ih => exact ih (LineSource.next_congr same).2.2

/-- Requests leave the prompt as it is, and a sink that works keeps working. -/
theorem prompt_asked (source : LineSource) (count : Nat) :
    (asked source count).prompt = source.prompt ∧
      (asked source count).sink.working = source.sink.working := by
  induction count generalizing source with
  | zero => exact ⟨rfl, rfl⟩
  | succ count ih =>
    obtain ⟨skipped, _, reached⟩ := source.exists_stopsAfter
    have prompt : (Source.next source).source.prompt = source.prompt :=
      (congrArg LineSource.prompt reached).trans (source.prompt_iterate_advance _)
    have working : (Source.next source).source.sink.working = source.sink.working := by
      rw [← source.working_sinkAfter (skipped + 1), ← source.sink_iterate_advance, ← reached]
      rfl
    obtain ⟨later, stays⟩ := ih (Source.next source).source
    exact ⟨later.trans prompt, stays.trans working⟩

/-- **Prompting does not influence the input, and it is exact.** Over any reader, whatever bytes it
brings and however it fails, and for any number of requests, the answers and the events are those of
a source that prompts nobody, with any prompt and any sink, be it broken. Each request passes over
some lines and stops at the next. On a sink that works it writes the prompt once for each line that
it passes over and once for the line at which it stops; without a prompt, or to a broken sink, it
writes nothing. -/
theorem prompting_is_harmless_and_exact (chunks : List Chunk) (prompt : Option String)
    (sink : PromptSink) (count : Nat) :
    let source : LineSource := { chunks, prompt, sink }
    let unprompted : LineSource := { chunks }
    let before := asked source count
    let answer := Source.next before
    (answers source count).map (·.commandLine) = (answers unprompted count).map (·.commandLine) ∧
    (answers source count).map (·.events) = (answers unprompted count).map (·.events) ∧
    answers source (count + 1) = answers source count ++ [answer] ∧
    before.chunks = (asked unprompted count).chunks ∧
    ∃ skipped, StopsAfter before.chunks answer skipped ∧
      (∀ text, prompt = some text → sink.working = true →
        answer.source.sink.written =
          before.sink.written ++ String.join (List.replicate (skipped + 1) text)) ∧
      (prompt = none ∨ sink.working = false →
        answer.source.sink.written = before.sink.written) := by
  intro source unprompted before answer
  have sameReader : source.chunks = unprompted.chunks := rfl
  obtain ⟨commandLines, events⟩ := LineSource.answers_congr sameReader count
  obtain ⟨skipped, answered, reached⟩ := before.exists_stopsAfter
  obtain ⟨samePrompt, sameWorking⟩ := prompt_asked source count
  have written : answer.source.sink = before.sinkAfter (skipped + 1) := by
    rw [← before.sink_iterate_advance, ← reached]
    rfl
  refine ⟨commandLines, events, answers_succ source count, chunks_asked_congr sameReader count,
    skipped, answered, ?prompted, ?silent⟩
  case prompted =>
    rintro text rfl works
    rw [written, LineSource.sinkAfter, samePrompt]
    exact PromptSink.written_write (sameWorking.trans works) _
  case silent =>
    rintro (rfl | broken)
    · rw [written, LineSource.sinkAfter, samePrompt]
    · rw [written, LineSource.sinkAfter]
      split
      · rfl
      · rw [PromptSink.write_of_broken (sameWorking.trans broken)]

end TiltMenu.Input
