import TiltMenu.Proofs.Input.Failures

/-!
# What a line source answers

A source is asked for command lines again and again, also after it has said that there are no
more (`answers`). Over a reader that does not fail, a line source answers from the lines of the
bytes alone, however the bytes are cut into chunks and whatever is shown as a prompt: each line
that carries a command line answers one request, in order, and then there is none for ever
(`answers_of_undisturbed`).

A line carries a command line if it is text, neither blank nor a comment, and can be split
(`carried?`). A line that is no text or cannot be split is warned about, once, when it is read on
the way to the next answer (`linesRead`); nothing else is logged.
-/

set_option autoImplicit false

namespace TiltMenu.Input

open Log (Event)
open CommandLine (isSkippable split?)
open LineSource (Attempt commandOfBytes?)

/-- The answers of a source that is asked a number of times. -/
def answers {ς : Type} [Source ς] (source : ς) : Nat → List (Reading ς)
  | 0 => []
  | count + 1 => Source.next source :: answers (Source.next source).source count

/-! ## Lines -/

/-- The command line that a line carries: the line is text, it is neither blank nor a comment, and
it can be split. -/
def carried? (line : List UInt8) : Option CommandLine :=
  (Text.decode? line).bind fun text => if isSkippable text.toList then none else split? text

/-- The line is no text, or it is neither blank nor a comment and cannot be split. -/
def IsUnreadable (line : List UInt8) : Prop :=
  Text.decode? line = none ∨
    ∃ text, Text.decode? line = some text ∧ isSkippable text.toList = false ∧ split? text = none

/-- What is logged about a line. -/
def lineEvents (line : List UInt8) : List Event := (attemptOf line).events

theorem commandOfBytes?_eq_carried? {line : List UInt8} (nonempty : line ≠ []) :
    commandOfBytes? line = carried? line := by
  have way := LineSource.tries (.bytes line)
  rw [commandOfBytes?, carried?]
  generalize Attempt.ofLineRead (.ofRaw (.bytes line)) = attempt at way ⊢
  cases way with
  | endOfInput => exact absurd rfl nonempty
  | undecodable _ noText => simp [noText, Attempt.commandLine?]
  | skipped _ decoded skippable => simp [decoded, skippable, Attempt.commandLine?]
  | unsplittable _ decoded kept unsplit => simp [decoded, kept, unsplit, Attempt.commandLine?]
  | command _ decoded kept split => simp [decoded, kept, split, Attempt.commandLine?]

/-- **A line is warned about once if it is unreadable, and not at all otherwise.** -/
theorem lineEvents_cases {line : List UInt8} (nonempty : line ≠ []) :
    (IsUnreadable line → ∃ warning : Event, warning.level = .warn ∧ lineEvents line = [warning]) ∧
      (¬ IsUnreadable line → lineEvents line = []) := by
  have way := LineSource.tries (.bytes line)
  rw [lineEvents, attemptOf]
  generalize Attempt.ofLineRead (.ofRaw (.bytes line)) = attempt at way ⊢
  cases way with
  | endOfInput => exact absurd rfl nonempty
  | undecodable _ noText =>
    exact ⟨fun _ => ⟨_, rfl, rfl⟩, fun readable => absurd (.inl noText) readable⟩
  | skipped _ decoded skippable =>
    have readable : ¬ IsUnreadable line := by simp [IsUnreadable, decoded, skippable]
    exact ⟨fun unreadable => absurd unreadable readable, fun _ => rfl⟩
  | unsplittable _ decoded kept unsplit =>
    exact ⟨fun _ => ⟨_, rfl, rfl⟩,
      fun readable => absurd (.inr ⟨_, decoded, kept, unsplit⟩) readable⟩
  | command _ decoded kept split =>
    have readable : ¬ IsUnreadable line := by simp [IsUnreadable, decoded, split]
    exact ⟨fun unreadable => absurd unreadable readable, fun _ => rfl⟩

/-- The lines that have been read once so many command lines were asked for. -/
def linesRead : Nat → List (List UInt8) → List (List UInt8)
  | 0, _ => []
  | _ + 1, [] => []
  | count + 1, line :: rest =>
    line :: if (carried? line).isSome then linesRead count rest else linesRead (count + 1) rest

theorem linesRead_nil (count : Nat) : linesRead count [] = [] := by
  cases count <;> rfl

/-- The lines are read from the first on. -/
theorem linesRead_prefix (count : Nat) (lines : List (List UInt8)) :
    linesRead count lines <+: lines := by
  induction lines generalizing count with
  | nil => simp [linesRead_nil]
  | cons line rest ih =>
    cases count with
    | zero => exact List.nil_prefix
    | succ count =>
      rw [linesRead, List.cons_prefix_cons]
      refine ⟨rfl, ?_⟩
      split
      · exact ih count
      · exact ih (count + 1)

theorem mem_of_mem_linesRead {count : Nat} {lines : List (List UInt8)} {line : List UInt8}
    (read : line ∈ linesRead count lines) : line ∈ lines := by
  have front := linesRead_prefix count lines
  exact front.subset read

/-- A request for more command lines than there are reads all lines. -/
theorem linesRead_of_length_lt {count : Nat} {lines : List (List UInt8)}
    (more : (lines.filterMap carried?).length < count) : linesRead count lines = lines := by
  induction lines generalizing count with
  | nil => exact linesRead_nil count
  | cons line rest ih =>
    cases count with
    | zero => exact absurd more (Nat.not_lt_zero _)
    | succ count =>
      rw [linesRead]
      cases carries : carried? line with
      | none =>
        rw [List.filterMap_cons_none carries] at more
        exact congrArg (line :: ·) (ih more)
      | some commandLine =>
        rw [List.filterMap_cons_some carries, List.length_cons] at more
        exact congrArg (line :: ·) (ih (Nat.lt_of_succ_lt_succ more))

/-! ## Answers -/

namespace LineSource

/-- Asking once more than a list has elements, the first of which is at hand. -/
theorem map_range_succ_getElem? {α : Type} (first : α) (rest : List α) (count : Nat) :
    (List.range (count + 1)).map ((first :: rest)[·]?) =
      some first :: (List.range count).map (rest[·]?) := by
  rw [List.range_succ_eq_map, List.map_cons, List.map_map]
  rfl

/-- A source whose lines are used up has no answer any more and logs nothing. -/
theorem answers_of_exhausted {source : LineSource} (quiet : Undisturbed source.chunks)
    (used : rawLines (delivered source.chunks) = []) (count : Nat) :
    (answers source count).map (·.commandLine) = List.replicate count none ∧
      (answers source count).flatMap (·.events) = [] := by
  induction count generalizing source with
  | zero => exact ⟨rfl, rfl⟩
  | succ count ih =>
    obtain ⟨tried, calm, later⟩ := attempt_of_undisturbed quiet
    rw [used] at tried later
    have answer : Source.next source = ⟨none, source.advance, []⟩ := by
      show next source = _
      rw [next_of_final (by rw [tried]; rfl), tried]
      rfl
    obtain ⟨none_, silent⟩ := ih calm later
    rw [answers, answer, List.map_cons, List.flatMap_cons, none_, silent]
    exact ⟨rfl, rfl⟩

/-- What the answers of a source are that reads a line which carries no command line. -/
theorem answers_of_not_final {source : LineSource} (searching : source.attempt.isFinal = false)
    (count : Nat) :
    (answers source (count + 1)).map (·.commandLine) =
        (answers source.advance (count + 1)).map (·.commandLine) ∧
      (answers source (count + 1)).flatMap (·.events) =
        source.attempt.events ++ (answers source.advance (count + 1)).flatMap (·.events) := by
  have onward : Source.next source =
      { Source.next source.advance with
        events := source.attempt.events ++ (Source.next source.advance).events } :=
    next_of_not_final searching
  rw [answers, onward, answers, List.map_cons, List.map_cons, List.flatMap_cons, List.flatMap_cons,
    List.append_assoc]
  exact ⟨rfl, rfl⟩

/-- **The answers of a line source are those of its lines.** -/
theorem answers_eq {source : LineSource} (quiet : Undisturbed source.chunks)
    {lines : List (List UInt8)} (cut : rawLines (delivered source.chunks) = lines) (count : Nat) :
    (answers source count).map (·.commandLine) =
        (List.range count).map ((lines.filterMap carried?)[·]?) ∧
      (answers source count).flatMap (·.events) = (linesRead count lines).flatMap lineEvents := by
  induction lines generalizing source count with
  | nil =>
    obtain ⟨none_, silent⟩ := answers_of_exhausted quiet cut count
    rw [none_, silent, linesRead_nil]
    exact ⟨by simp [List.map_const'], rfl⟩
  | cons line others ih =>
    cases count with
    | zero => exact ⟨rfl, rfl⟩
    | succ count =>
      obtain ⟨tried, calm, later⟩ := attempt_of_undisturbed quiet
      rw [cut] at tried later
      have nonempty : line ≠ [] :=
        (Text.shape_of_mem_pieces (cut ▸ List.mem_cons_self : line ∈ rawLines _)).1
      have attempted : source.attempt = attemptOf line := tried
      have final := isFinal_of_bytes nonempty
      rw [commandOfBytes?_eq_carried? nonempty] at final
      rw [linesRead, List.flatMap_cons]
      cases carries : carried? line with
      | none =>
        rw [carries] at final
        obtain ⟨commandLines, events⟩ :=
          answers_of_not_final (by rw [tried]; exact final) count
        obtain ⟨laterCommandLines, laterEvents⟩ := ih calm later (count + 1)
        rw [commandLines, events, laterCommandLines, laterEvents, attempted,
          List.filterMap_cons_none carries]
        exact ⟨rfl, rfl⟩
      | some commandLine =>
        rw [carries] at final
        have yields : (attemptOf line).commandLine? = some commandLine :=
          (commandOfBytes?_eq_carried? nonempty).trans carries
        have answer : Source.next source = ⟨some commandLine, source.advance, lineEvents line⟩ := by
          show next source = _
          rw [next_of_final (by rw [tried]; exact final), attempted, yields]
          rfl
        obtain ⟨laterCommandLines, laterEvents⟩ := ih calm later count
        rw [List.filterMap_cons_some carries, map_range_succ_getElem?, answers, answer,
          List.map_cons, List.flatMap_cons, laterCommandLines, laterEvents]
        exact ⟨rfl, rfl⟩

/-- **A line source answers from the lines of the bytes.** The reader does not fail, and may cut
the bytes anywhere and be interrupted. The lines are the bytes cut behind every newline. Asked
until there is none, the source hands out the command lines of the lines that carry one, in order;
asked any number of times, it answers with these and then with none for ever. Until an answer it
logs one warning about each line on the way that is no text or cannot be split, and nothing else. -/
theorem answers_of_undisturbed {source : LineSource} (quiet : Undisturbed source.chunks) :
    let lines := rawLines (delivered source.chunks)
    let commandLines := lines.filterMap carried?
    lines.flatten = delivered source.chunks ∧
    (∀ line ∈ lines, line ≠ [] ∧ newline ∉ line.dropLast) ∧
    (∀ line ∈ lines.dropLast, line.getLast? = some newline) ∧
    handed source = commandLines ∧
    (∀ count,
      (answers source count).map (·.commandLine) = (List.range count).map (commandLines[·]?) ∧
      (answers source count).flatMap (·.events) = (linesRead count lines).flatMap lineEvents ∧
      linesRead count lines <+: lines ∧
      (commandLines.length < count → linesRead count lines = lines)) ∧
    ∀ line ∈ lines,
      (IsUnreadable line →
        ∃ warning : Event, warning.level = .warn ∧ lineEvents line = [warning]) ∧
      (¬ IsUnreadable line → lineEvents line = []) := by
  intro lines commandLines
  have shape (line : List UInt8) (member : line ∈ lines) :
      line ≠ [] ∧ newline ∉ line.dropLast := by
    obtain ⟨nonempty, body, inside, rfl | ⟨ending, _, rfl⟩⟩ := Text.shape_of_mem_pieces member
    · refine ⟨nonempty, fun ends => ?_⟩
      cases inside newline (List.dropLast_subset _ ends)
    · rw [List.dropLast_concat]
      refine ⟨nonempty, fun ends => ?_⟩
      cases inside newline ends
  refine ⟨Text.flatten_pieces _ _, shape, ?_, ?_, ?_,
    fun line member => lineEvents_cases (shape line member).1⟩
  · intro line member
    obtain ⟨ending, last, ends⟩ := Text.getLast?_of_mem_dropLast_pieces member
    rw [last, beq_iff_eq.mp ends]
  · rw [handed_lineSource quiet]
    refine List.filterMap_congr fun line member => ?_
    exact commandOfBytes?_eq_carried? (shape line member).1
  · intro count
    obtain ⟨asked, logged⟩ := answers_eq quiet rfl count
    exact ⟨asked, logged, linesRead_prefix count lines, linesRead_of_length_lt⟩

/-- A comment whose last character is cut by an interruption, a line that ends in a quote, a line
that is no text, and a command line without a newline. -/
theorem answers_of_cut_character :
    let source : LineSource :=
      { chunks :=
          [.bytes [35, 32, 195], .failure .interrupted "signal", .bytes [169],
            .bytes [10, 39, 10, 255, 10, 101, 120], .bytes [105, 116]]
        prompt := some "> " }
    Undisturbed source.chunks ∧ handed source = [["exit"]] ∧
      (answers source 3).map (·.commandLine) = [some ["exit"], none, none] ∧
      ((answers source 3).flatMap (·.events)).map (·.level) = [.warn, .warn] := by
  intro source
  have quiet : Undisturbed source.chunks := by simp [source, Undisturbed, Chunk.isQuiet]
  have cut : rawLines (delivered source.chunks) =
      [[35, 32, 195, 169, 10], [39, 10], [255, 10], [101, 120, 105, 116]] := by decide
  obtain ⟨_, _, _, whole, each, _⟩ := answers_of_undisturbed quiet
  obtain ⟨asked, logged, _, _⟩ := each 3
  rw [cut] at whole asked logged
  refine ⟨quiet, whole.trans (by decide), asked.trans (by decide), ?_⟩
  rw [logged]
  decide

end LineSource

end TiltMenu.Input
