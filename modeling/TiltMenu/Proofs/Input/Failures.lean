import TiltMenu.Menu.Stock
import TiltMenu.Proofs.Menu.CutBatch

/-!
# Readers that fail

A reader may fail between any two of its chunks. An interruption is no failure, since reading
goes on after it. What a line source makes of all chunks is the list of its attempts up to the
end of its input (`attempts`); the command lines that it hands out are those of its attempts
(`handed_eq_attempts`).

The input should end where the reader first fails (`promised`): the lines that are whole before
the failure are read, the fragment behind them is lost, and nothing is read after the failure.
Then every command line that a session dispatches is carried by a whole line of the bytes, and
only bytes that are no text are passed over as such (`EndsAtFailure`).

The source keeps this promise exactly when the first failure does not call the data malformed
(`endsAtFailure_iff`). Such a failure is taken for a line that is no text: the source goes on
behind it, in the middle of the line whose beginning is lost
(`handed_fragment_of_malformed`).
-/

set_option autoImplicit false

namespace TiltMenu.Input

open Text (pieces)
open LineSource (Attempt commandOfBytes?)

/-! ## The first failure -/

/-- The failure that a chunk is. An interruption is none. -/
def Chunk.failure? : Chunk → Option (Failure × String)
  | .bytes _ | .failure .interrupted _ => none
  | .failure kind reason => some (kind, reason)

/-- The first failure of a reader. -/
def firstFailure? (chunks : List Chunk) : Option (Failure × String) :=
  chunks.findSome? Chunk.failure?

/-- What a reader delivers before its first failure. -/
def beforeFailure (chunks : List Chunk) : List Chunk := chunks.takeWhile Chunk.isQuiet

theorem undisturbed_beforeFailure (chunks : List Chunk) : Undisturbed (beforeFailure chunks) :=
  fun _ member => List.mem_takeWhile_imp member

/-- **A reader does not fail, or it fails after some chunks without failure.** -/
theorem firstFailure?_cases (chunks : List Chunk) :
    firstFailure? chunks = none ∧ Undisturbed chunks ∨
      ∃ kind reason rest, firstFailure? chunks = some (kind, reason) ∧ kind ≠ .interrupted ∧
        chunks = beforeFailure chunks ++ .failure kind reason :: rest := by
  induction chunks with
  | nil => exact .inl ⟨rfl, fun _ member => by cases member⟩
  | cons chunk later ih =>
    -- A chunk without failure leaves the first failure to the chunks after it.
    have onward (quiet : chunk.isQuiet = true) (silent : chunk.failure? = none) :
        firstFailure? (chunk :: later) = none ∧ Undisturbed (chunk :: later) ∨
          ∃ kind reason rest, firstFailure? (chunk :: later) = some (kind, reason) ∧
            kind ≠ .interrupted ∧
            chunk :: later = beforeFailure (chunk :: later) ++ .failure kind reason :: rest := by
      have first : firstFailure? (chunk :: later) = firstFailure? later := by
        rw [firstFailure?, List.findSome?_cons, silent]
        rfl
      have front : beforeFailure (chunk :: later) = chunk :: beforeFailure later :=
        List.takeWhile_cons_of_pos quiet
      rcases ih with ⟨none_, calm⟩ | ⟨kind, reason, rest, found, loud, cut⟩
      · exact .inl ⟨first.trans none_, List.forall_mem_cons.mpr ⟨quiet, calm⟩⟩
      · refine .inr ⟨kind, reason, rest, first.trans found, loud, ?_⟩
        rw [front, List.cons_append, ← cut]
    cases chunk with
    | bytes content => exact onward rfl rfl
    | failure kind reason =>
      cases kind with
      | interrupted => exact onward rfl rfl
      | invalidData => exact .inr ⟨_, _, later, rfl, by decide, rfl⟩
      | other => exact .inr ⟨_, _, later, rfl, by decide, rfl⟩

/-! ## Whole lines -/

/-- The lines of the bytes that have a newline. The rest after the last newline is none. -/
def wholeLines (bytes : List UInt8) : List (List UInt8) :=
  (rawLines bytes).filter fun line => decide (newline ∈ line)

theorem wholeLines_of_newline_not_mem {bytes : List UInt8} (absent : newline ∉ bytes) :
    wholeLines bytes = [] := by
  by_cases nothing : bytes = []
  · subst nothing
    rfl
  · rw [wholeLines, rawLines_of_newline_not_mem absent nothing, List.filter_cons,
      decide_eq_false absent]
    rfl

theorem wholeLines_append_newline {body : List UInt8} (inside : newline ∉ body)
    (rest : List UInt8) :
    wholeLines (body ++ newline :: rest) = (body ++ [newline]) :: wholeLines rest := by
  have ended : newline ∈ body ++ [newline] := List.mem_append_right body List.mem_cons_self
  rw [wholeLines, rawLines_append_newline inside, List.filter_cons, decide_eq_true ended]
  rfl

/-- Bytes have no newline, or they begin with a line that ends with one. -/
theorem exists_first_line (bytes : List UInt8) :
    newline ∉ bytes ∨ ∃ body rest, newline ∉ body ∧ bytes = body ++ newline :: rest := by
  by_cases present : newline ∈ bytes
  · obtain ⟨body, rest, cut, inside⟩ := List.eq_append_cons_of_mem present
    exact .inr ⟨body, rest, inside, cut⟩
  · exact .inl present

/-- **The whole lines of some bytes are the first lines, whatever follows the bytes.** -/
theorem wholeLines_prefix (bytes more : List UInt8) :
    wholeLines bytes <+: rawLines (bytes ++ more) := by
  generalize size : bytes.length = count
  induction count using Nat.strong_induction_on generalizing bytes with
  | _ count ih =>
    rcases exists_first_line bytes with absent | ⟨body, rest, inside, rfl⟩
    · rw [wholeLines_of_newline_not_mem absent]
      exact List.nil_prefix
    · have shorter : rest.length < count := by
        rw [← size, List.length_append, List.length_cons]
        omega
      rw [wholeLines_append_newline inside, List.append_assoc, List.cons_append,
        rawLines_append_newline inside]
      exact List.cons_prefix_cons.mpr ⟨rfl, ih rest.length shorter rest rfl⟩

/-! ## Attempts -/

/-- What reading a line of these bytes comes to. -/
def attemptOf (line : List UInt8) : Attempt := .ofLineRead (.ofRaw (.bytes line))

/-- A line that is not empty does not end the input. -/
theorem endsInput_attemptOf {line : List UInt8} (nonempty : line ≠ []) :
    (attemptOf line).endsInput = false := by
  have way := LineSource.tries (.bytes line)
  rw [attemptOf]
  generalize Attempt.ofLineRead (.ofRaw (.bytes line)) = attempt at way ⊢
  cases way with
  | endOfInput => exact absurd rfl nonempty
  | undecodable => rfl
  | skipped => rfl
  | unsplittable => rfl
  | command => rfl

/-- A line is passed over as no text only if its bytes are none. -/
theorem decode?_of_attemptOf_undecodable {line : List UInt8} {reason : String}
    (passed : attemptOf line = .undecodable reason) : Text.decode? line = none := by
  have way := LineSource.tries (.bytes line)
  rw [← attemptOf, passed] at way
  cases way with
  | undecodable _ noText => exact noText

/-- An attempt is final if it ends the input or yields a command line. -/
theorem LineSource.Attempt.isFinal_eq (attempt : Attempt) :
    attempt.isFinal = (attempt.endsInput || attempt.commandLine?.isSome) := by
  cases attempt <;> rfl

theorem LineSource.Attempt.endsInput_of_commandLine? {attempt : Attempt}
    {commandLine : CommandLine} (yields : attempt.commandLine? = some commandLine) :
    attempt.endsInput = false := by
  cases attempt with
  | command held => rfl
  | exhausted => cases yields
  | failed reason => cases yields
  | skipped => rfl
  | undecodable reason => rfl
  | unsplittable line => rfl

/-- The attempts to read a command line from a reader until its input ends. -/
def attempts (chunks : List Chunk) : List Attempt :=
  if (Attempt.ofLineRead (readLine chunks).1).endsInput then [.ofLineRead (readLine chunks).1]
  else .ofLineRead (readLine chunks).1 :: attempts (readLine chunks).2
termination_by weight chunks
decreasing_by
  rename_i going
  apply weight_readLine_lt
  intro ended
  simp [ended, Attempt.ofLineRead, Attempt.endsInput] at going

theorem attempts_of_ends {chunks : List Chunk}
    (ends : (Attempt.ofLineRead (readLine chunks).1).endsInput = true) :
    attempts chunks = [.ofLineRead (readLine chunks).1] := by
  rw [attempts, if_pos ends]

theorem attempts_of_going {chunks : List Chunk}
    (going : (Attempt.ofLineRead (readLine chunks).1).endsInput = false) :
    attempts chunks = .ofLineRead (readLine chunks).1 :: attempts (readLine chunks).2 := by
  rw [attempts, going]
  rfl

/-- **A line source hands out the command lines of its attempts.** -/
theorem handed_eq_attempts (source : LineSource) :
    handed source = (attempts source.chunks).filterMap Attempt.commandLine? := by
  generalize size : weight source.chunks = count
  induction count using Nat.strong_induction_on generalizing source with
  | _ count ih =>
    have onward (going : source.attempt.endsInput = false) :
        attempts source.chunks = source.attempt :: attempts source.advance.chunks ∧
          handed source.advance =
            (attempts source.advance.chunks).filterMap Attempt.commandLine? := by
      refine ⟨attempts_of_going going, ih _ ?_ source.advance rfl⟩
      rw [← size]
      apply LineSource.weight_advance_lt
      intro ended
      rw [ended] at going
      cases going
    cases yields : source.attempt.commandLine? with
    | some commandLine =>
      obtain ⟨tried, later⟩ := onward (Attempt.endsInput_of_commandLine? yields)
      have final : source.attempt.isFinal = true := by
        rw [Attempt.isFinal_eq, yields, Option.isSome_some, Bool.or_true]
      have answer : Source.next source =
          ⟨source.attempt.commandLine?, source.advance, source.attempt.events⟩ :=
        LineSource.next_of_final final
      have found : (Source.next source).commandLine = some commandLine := by rw [answer, yields]
      rw [handed_of_next found, answer, later, tried, List.filterMap_cons_some yields]
    | none =>
      cases ends : source.attempt.endsInput with
      | true =>
        have final : source.attempt.isFinal = true := by rw [Attempt.isFinal_eq, ends, Bool.true_or]
        have answer : Source.next source =
            ⟨source.attempt.commandLine?, source.advance, source.attempt.events⟩ :=
          LineSource.next_of_final final
        rw [handed_of_exhausted (by rw [answer, yields]), attempts_of_ends ends]
        show [] = [source.attempt].filterMap Attempt.commandLine?
        rw [List.filterMap_cons_none yields]
        rfl
      | false =>
        obtain ⟨tried, later⟩ := onward ends
        have searching : source.attempt.isFinal = false := by
          rw [Attempt.isFinal_eq, ends, yields]
          rfl
        rw [LineSource.handed_of_not_final searching, later, tried,
          List.filterMap_cons_none yields]

/-! ## Attempts up to a failure -/

/-- The first line with a newline is the first attempt, and the attempts go on behind it. -/
theorem attempts_append {front : List Chunk} {body following : List UInt8}
    (quiet : Undisturbed front) (inside : newline ∉ body)
    (whole : delivered front = body ++ newline :: following) (rest : List Chunk) :
    ∃ left, Undisturbed left ∧ delivered left = following ∧
      attempts (front ++ rest) = attemptOf (body ++ [newline]) :: attempts (left ++ rest) := by
  obtain ⟨left, taken, calm, later⟩ := takeLine_append quiet inside whole rest
  have read : readLine (front ++ rest) =
      (.ofRaw (.bytes (body ++ [newline])), left ++ rest) := by
    rw [readLine, taken]
  have going : (Attempt.ofLineRead (readLine (front ++ rest)).1).endsInput = false := by
    rw [read]
    exact endsInput_attemptOf (List.append_ne_nil_of_right_ne_nil body (List.cons_ne_nil _ _))
  refine ⟨left, calm, later, ?_⟩
  rw [attempts_of_going going, read]
  rfl

/-- **The whole lines before a failure are attempted, and then the failure is met.** The
fragment behind the last of them is lost. -/
theorem attempts_before_failure {front : List Chunk} (quiet : Undisturbed front)
    {kind : Failure} (loud : kind ≠ .interrupted) (reason : String) (rest : List Chunk) :
    attempts (front ++ .failure kind reason :: rest) =
      (wholeLines (delivered front)).map attemptOf ++ attempts (.failure kind reason :: rest) := by
  generalize size : (delivered front).length = count
  induction count using Nat.strong_induction_on generalizing front with
  | _ count ih =>
    rcases exists_first_line (delivered front) with absent | ⟨body, following, inside, whole⟩
    · have lost (collected : List UInt8) :
          takeLine collected (.failure kind reason :: rest) = (.failed kind reason, rest) := by
        cases kind with
        | interrupted => exact absurd rfl loud
        | invalidData => rfl
        | other => rfl
      have same : readLine (front ++ .failure kind reason :: rest) =
          readLine (.failure kind reason :: rest) := by
        rw [readLine, takeLine_append_of_newline_not_mem quiet absent, lost, readLine, lost]
      rw [wholeLines_of_newline_not_mem absent, attempts, same, ← attempts]
      rfl
    · obtain ⟨left, calm, later, tried⟩ :=
        attempts_append quiet inside whole (.failure kind reason :: rest)
      have shorter : (delivered left).length < count := by
        rw [← size, whole, later, List.length_append, List.length_cons]
        omega
      rw [tried, ih _ shorter calm rfl, whole, wholeLines_append_newline inside, later]
      rfl

/-- A reader that does not fail has all of its lines read. -/
theorem attempts_of_undisturbed {chunks : List Chunk} (quiet : Undisturbed chunks) :
    attempts chunks = (rawLines (delivered chunks)).map attemptOf ++ [.exhausted] := by
  generalize cut : rawLines (delivered chunks) = lines
  induction lines generalizing chunks with
  | nil =>
    obtain ⟨left, taken, _, _⟩ := takeLine_eq quiet
    rw [cut] at taken
    have read : (readLine chunks).1 = .endOfInput := by
      rw [readLine, taken]
      rfl
    rw [attempts_of_ends (by rw [read]; rfl), read]
    rfl
  | cons line others ih =>
    obtain ⟨left, taken, calm, later⟩ := takeLine_eq quiet
    rw [cut] at taken later
    have read : readLine chunks = (.ofRaw (.bytes line), left) := by
      rw [readLine, taken]
      rfl
    have nonempty : line ≠ [] :=
      (Text.shape_of_mem_pieces (cut ▸ List.mem_cons_self : line ∈ rawLines _)).1
    have going : (Attempt.ofLineRead (readLine chunks).1).endsInput = false := by
      rw [read]
      exact endsInput_attemptOf nonempty
    rw [attempts_of_going going, read, ih calm later]
    rfl

/-! ## What is promised of a reader that fails -/

/-- The attempts of a source whose input ends at the first failure of its reader. -/
def promised (chunks : List Chunk) : List Attempt :=
  match firstFailure? chunks with
  | none => (rawLines (delivered chunks)).map attemptOf ++ [.exhausted]
  | some (_, reason) =>
    (wholeLines (delivered (beforeFailure chunks))).map attemptOf ++ [.failed reason]

/-- **The promise is kept unless the first failure calls the data malformed.** -/
theorem attempts_eq_promised_iff (chunks : List Chunk) :
    attempts chunks = promised chunks ↔
      ∀ reason, firstFailure? chunks ≠ some (.invalidData, reason) := by
  rcases firstFailure?_cases chunks with ⟨none_, quiet⟩ | ⟨kind, reason, rest, found, loud, cut⟩
  · have kept : attempts chunks = promised chunks := by
      rw [promised, none_]
      exact attempts_of_undisturbed quiet
    refine iff_of_true kept fun reason => ?_
    rw [none_]
    exact (Option.some_ne_none _).symm
  · have tried : attempts chunks =
        (wholeLines (delivered (beforeFailure chunks))).map attemptOf ++
          attempts (.failure kind reason :: rest) :=
      (congrArg attempts cut).trans
        (attempts_before_failure (undisturbed_beforeFailure chunks) loud reason rest)
    have expected : promised chunks =
        (wholeLines (delivered (beforeFailure chunks))).map attemptOf ++ [.failed reason] := by
      rw [promised, found]
    rw [tried, expected, List.append_cancel_left_eq, found]
    cases kind with
    | interrupted => exact absurd rfl loud
    | invalidData =>
      refine iff_of_false ?_ fun kept => kept reason rfl
      rw [attempts_of_going rfl]
      intro same
      cases (List.cons.inj same).1
    | other =>
      refine iff_of_true (attempts_of_ends rfl) fun other same => ?_
      cases same

/-- The lines that are read when the promise is kept: all of them, or those that are whole
before the failure. -/
theorem exists_lines_of_promised (chunks : List Chunk) :
    ∃ lines last, lines <+: rawLines (delivered chunks) ∧ last.endsInput = true ∧
      promised chunks = lines.map attemptOf ++ [last] := by
  rcases firstFailure?_cases chunks with ⟨none_, _⟩ | ⟨kind, reason, rest, found, _, cut⟩
  · refine ⟨_, _, List.prefix_rfl, ?_, by rw [promised, none_]⟩
    rfl
  · refine ⟨wholeLines (delivered (beforeFailure chunks)), .failed reason, ?_, rfl, ?_⟩
    · have front := wholeLines_prefix (delivered (beforeFailure chunks))
        (delivered (.failure kind reason :: rest))
      rw [← delivered_append, ← cut] at front
      exact front
    · rw [promised, found]

/-! ## Sessions over a reader that fails -/

namespace LineSource

/-- The input of a source ends where its reader fails, and no fragment of a line is taken for
a line. -/
structure EndsAtFailure (source : LineSource) : Prop where
  /-- The whole lines before the first failure are attempted, and nothing is after it. -/
  ends : attempts source.chunks = promised source.chunks
  /-- Only a line whose own bytes are no text is passed over as such. -/
  undecodable : ∀ reason, .undecodable reason ∈ attempts source.chunks →
    ∃ line ∈ rawLines (delivered source.chunks), Text.decode? line = none
  /-- What a session dispatches is carried by the first lines of all bytes, in their order. -/
  sessions : ∀ {σ ν δ κ ρ : Type} [Executor σ κ] [Validator ν κ] [Validator δ ρ]
    (menu : Menu σ ν δ), ∃ lines, lines <+: rawLines (delivered source.chunks) ∧
      menu.attempted (handed source) = lines.filterMap commandOfBytes? ∧
      (menu.runSession source).outcome.state =
        (menu.dispatchAll (lines.filterMap commandOfBytes?)).state

/-- A source that keeps the promise takes no fragment of a line for a line. -/
theorem endsAtFailure_of_promised {source : LineSource}
    (kept : attempts source.chunks = promised source.chunks) : source.EndsAtFailure := by
  obtain ⟨lines, last, front, ends, listed⟩ := exists_lines_of_promised source.chunks
  rw [listed] at kept
  refine ⟨kept.trans listed.symm, ?_, ?_⟩
  · intro reason passed
    rw [kept, List.mem_append, List.mem_singleton] at passed
    rcases passed with among | rfl
    · obtain ⟨line, member, same⟩ := List.mem_map.mp among
      exact ⟨line, front.subset member, decode?_of_attemptOf_undecodable same⟩
    · cases ends
  · intro σ ν δ κ ρ _ _ _ menu
    have lastYieldsNone : last.commandLine? = none := by
      cases yields : last.commandLine? with
      | none => rfl
      | some commandLine =>
        rw [Attempt.endsInput_of_commandLine? yields] at ends
        cases ends
    have carried : handed source = lines.filterMap commandOfBytes? := by
      rw [handed_eq_attempts, kept, List.filterMap_append, List.filterMap_cons_none lastYieldsNone,
        List.filterMap_nil, List.append_nil, List.filterMap_map]
      rfl
    have dispatched := menu.attempted_prefix (handed source)
    rw [carried] at dispatched
    obtain ⟨earlier, inside, same⟩ := List.prefix_filterMap_iff.mp dispatched
    rw [← carried] at same
    refine ⟨earlier, inside.trans front, same, ?_⟩
    rw [(menu.runSession_eq_dispatchAll source).2, same]

/-- **The input of a source ends where its reader fails exactly when the first failure does not
call the data malformed.** The reader may deliver any bytes in any chunks and fail any number
of times. -/
theorem endsAtFailure_iff (source : LineSource) :
    source.EndsAtFailure ↔
      ∀ reason, firstFailure? source.chunks ≠ some (.invalidData, reason) :=
  ⟨fun kept => (attempts_eq_promised_iff source.chunks).mp kept.ends,
    fun harmless => endsAtFailure_of_promised ((attempts_eq_promised_iff source.chunks).mpr harmless)⟩

/-- The end of a line whose beginning was lost to a failure is handed out and ends the session,
though the bytes have one line, which asks for a parameter. -/
theorem handed_fragment_of_malformed :
    let source : LineSource :=
      { chunks :=
          [.bytes (Text.encode "getdb "), .failure .invalidData "malformed",
            .bytes (Text.encode "exit\n")] }
    rawLines (delivered source.chunks) = [Text.encode "getdb exit\n"] ∧
      commandOfBytes? (Text.encode "getdb exit\n") = some ["getdb", "exit"] ∧
      handed source = [["exit"]] ∧
      (∀ menu : StockMenu, menu.attempted (handed source) = [["exit"]]) ∧
      ¬ source.EndsAtFailure := by
  intro source
  have lineCarries : commandOfBytes? (Text.encode "getdb exit\n") = some ["getdb", "exit"] := by
    rw [Text.encode_eq, commandOfBytes?_encodeChars (by decide)]
    decide
  have restCarries : (attemptOf (Text.encode "exit\n")).commandLine? = some ["exit"] := by
    show commandOfBytes? (Text.encode "exit\n") = some ["exit"]
    rw [Text.encode_eq, commandOfBytes?_encodeChars (by decide)]
    decide
  have fragment : handed source = [["exit"]] := by
    have quiet : Undisturbed [.bytes (Text.encode "getdb ")] := List.forall_mem_singleton.mpr rfl
    have calm : Undisturbed [.bytes (Text.encode "exit\n")] := List.forall_mem_singleton.mpr rfl
    have tried : attempts source.chunks =
        [.undecodable "malformed", attemptOf (Text.encode "exit\n"), .exhausted] := by
      show attempts ([.bytes (Text.encode "getdb ")] ++ _) = _
      rw [attempts_before_failure quiet (by decide), attempts_of_going rfl]
      show _ ++ .undecodable "malformed" :: attempts [.bytes (Text.encode "exit\n")] = _
      rw [attempts_of_undisturbed calm]
      simp only [Text.encode_eq]
      rfl
    rw [handed_eq_attempts, tried, List.filterMap_cons_none rfl,
      List.filterMap_cons_some restCarries]
    rfl
  refine ⟨?_, lineCarries, fragment, ?_, ?_⟩
  · simp only [Text.encode_eq, source]
    decide
  · intro menu
    rw [fragment]
    exact menu.attempted_singleton ["exit"]
  · intro kept
    exact (endsAtFailure_iff source).mp kept "malformed" rfl

end LineSource

end TiltMenu.Input
