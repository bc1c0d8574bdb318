import TiltMenu.Menu.Rehearsal
import TiltMenu.Proofs.Input.Lines

/-!
# A session as a batch that is cut

A batch attempts every command line of a list, a session stops behind the first that does not
succeed. What a session dispatches is therefore a front of the command lines that its source
would hand out (`attempted`), and the session leaves the menu that dispatching this front
leaves (`runSession_eq_dispatchAll`). This holds of every source, executor and validator.

When the source replays a list, the front reaches up to and including the first command line
that fails after those before it (`attempted_of_firstFailure`), or it is the whole list
(`attempted_of_no_failure`). The replay counts exactly the command lines of the front
(`source_runSession_replay`).
-/

set_option autoImplicit false

namespace TiltMenu.Menu

open Input (Source Replay handed handed_of_next handed_of_exhausted)

variable {σ ν δ κ ρ : Type} [Executor σ κ] [Validator ν κ] [Validator δ ρ]

/-! ## The front that a session dispatches -/

/-- The command lines of a list up to and including the first that does not succeed when
they are dispatched one after another. -/
def attempted (menu : Menu σ ν δ) : List CommandLine → List CommandLine
  | [] => []
  | first :: rest =>
    if (menu.dispatch first).succeeded then first :: attempted (menu.dispatch first).state rest
    else [first]

theorem attempted_of_succeeded {menu : Menu σ ν δ} {first : CommandLine}
    (succeeded : (menu.dispatch first).succeeded = true) (rest : List CommandLine) :
    menu.attempted (first :: rest) = first :: (menu.dispatch first).state.attempted rest := by
  rw [attempted, if_pos succeeded]

theorem attempted_of_failed {menu : Menu σ ν δ} {first : CommandLine}
    (failed : (menu.dispatch first).succeeded = false) (rest : List CommandLine) :
    menu.attempted (first :: rest) = [first] := by
  rw [attempted, failed]
  rfl

/-- A single command line is dispatched in any case. -/
theorem attempted_singleton (menu : Menu σ ν δ) (commandLine : CommandLine) :
    menu.attempted [commandLine] = [commandLine] := by
  rw [attempted]
  split
  · rfl
  · rfl

/-- What is dispatched is a front of the list. -/
theorem attempted_prefix (menu : Menu σ ν δ) (commandLines : List CommandLine) :
    menu.attempted commandLines <+: commandLines := by
  induction commandLines generalizing menu with
  | nil => exact List.prefix_rfl
  | cons first rest ih =>
    cases succeeded : (menu.dispatch first).succeeded with
    | true =>
      rw [attempted_of_succeeded succeeded]
      exact List.cons_prefix_cons.mpr ⟨rfl, ih _⟩
    | false =>
      rw [attempted_of_failed succeeded]
      exact List.prefix_append [first] rest

/-! ## Sessions over any source -/

section Sessions

variable {ς : Type} [Source ς] {menu : Menu σ ν δ} {source : ς}

theorem runSession_of_exhausted (exhausted : (Source.next source).commandLine = none) :
    menu.runSession source =
      ⟨⟨true, menu, (Source.next source).events ++ [endOfInput]⟩, (Source.next source).source⟩ := by
  rw [runSession]
  split
  · rfl
  · next commandLine handed =>
    rw [exhausted] at handed
    cases handed

/-- A command line that succeeds is followed by the rest of the session. -/
theorem runSession_of_succeeded {commandLine : CommandLine}
    (found : (Source.next source).commandLine = some commandLine)
    (succeeded : (menu.dispatch commandLine).succeeded = true) :
    menu.runSession source =
      let later := (menu.dispatch commandLine).state.runSession (Source.next source).source
      ⟨later.outcome.logFirst ((Source.next source).events ++ (menu.dispatch commandLine).events),
        later.source⟩ := by
  rw [runSession]
  split
  · next exhausted =>
    rw [exhausted] at found
    cases found
  · next other same =>
    rw [found] at same
    cases same
    exact if_pos succeeded

/-- A command line that fails is the last of the session. -/
theorem runSession_of_failed {commandLine : CommandLine}
    (found : (Source.next source).commandLine = some commandLine)
    (failed : (menu.dispatch commandLine).succeeded = false) :
    menu.runSession source =
      ⟨(menu.dispatch commandLine).logFirst (Source.next source).events,
        (Source.next source).source⟩ := by
  rw [runSession]
  split
  · next exhausted =>
    rw [exhausted] at found
    cases found
  · next other same =>
    rw [found] at same
    cases same
    have last : ¬(menu.dispatch commandLine).succeeded = true := by rw [failed]; decide
    exact if_neg last

/-- The events of a session are those of the answers of its source, those of the dispatches of
what the source hands out, and the one about its end. -/
theorem of_mem_runSession {property : Log.Event → Prop} (ended : property endOfInput)
    (asked : ∀ source : ς, ∀ event ∈ (Source.next source).events, property event)
    (dispatched : ∀ (menu : Menu σ ν δ) (source : ς) (commandLine : CommandLine),
      (Source.next source).commandLine = some commandLine →
        ∀ event ∈ (menu.dispatch commandLine).events, property event) :
    ∀ event ∈ (menu.runSession source).outcome.events, property event := by
  intro event member
  fun_induction runSession menu source with
  | case1 menu source exhausted =>
    rcases List.mem_append.mp member with answered | last
    · exact asked source event answered
    · rw [List.mem_singleton.mp last]
      exact ended
  | case2 menu source commandLine found outcome succeeded later ih =>
    rcases List.mem_append.mp member with here | onward
    · rcases List.mem_append.mp here with answered | logged
      · exact asked source event answered
      · exact dispatched menu source commandLine found event logged
    · exact ih onward
  | case3 menu source commandLine found outcome failed =>
    rcases List.mem_append.mp member with answered | logged
    · exact asked source event answered
    · exact dispatched menu source commandLine found event logged

end Sessions

/-- Dispatching a list begins with its first command line. -/
theorem dispatchAll_cons (menu : Menu σ ν δ) (first : CommandLine) (rest : List CommandLine) :
    menu.dispatchAll (first :: rest) =
      (menu.dispatch first).andThen fun next => next.dispatchAll rest :=
  rfl

/-- **A session leaves what dispatching its front leaves**, and it succeeds if the whole front
does. -/
theorem runSession_eq_dispatchAll {ς : Type} [Source ς] (menu : Menu σ ν δ) (source : ς) :
    (menu.runSession source).outcome.succeeded =
        (menu.dispatchAll (menu.attempted (handed source))).succeeded ∧
      (menu.runSession source).outcome.state =
        (menu.dispatchAll (menu.attempted (handed source))).state := by
  -- The measure of the source drops with every command line that it hands out.
  generalize bound : Source.left source = left
  induction left using Nat.strong_induction_on generalizing menu source with
  | _ left ih =>
    cases found : (Source.next source).commandLine with
    | none =>
      rw [runSession_of_exhausted found, handed_of_exhausted found]
      exact ⟨rfl, rfl⟩
    | some commandLine =>
      rw [handed_of_next found]
      cases succeeded : (menu.dispatch commandLine).succeeded with
      | true =>
        have less : Source.left (Source.next source).source < left :=
          bound ▸ Source.left_next_lt source (by rw [found]; rfl)
        obtain ⟨result, state⟩ := ih _ less (menu.dispatch commandLine).state _ rfl
        rw [runSession_of_succeeded found succeeded, attempted_of_succeeded succeeded,
          dispatchAll_cons]
        refine ⟨?_, state⟩
        show _ = ((menu.dispatch commandLine).succeeded && _)
        rw [succeeded, Bool.true_and]
        exact result
      | false =>
        rw [runSession_of_failed found succeeded, attempted_of_failed succeeded, dispatchAll_cons]
        refine ⟨?_, rfl⟩
        show (menu.dispatch commandLine).succeeded = ((menu.dispatch commandLine).succeeded && true)
        rw [Bool.and_true]

/-! ## Contributions -/

/-- What the command line at a place of a list contributes when the list is run: whether it
succeeds on the menu that those before it leave. -/
def contribution (menu : Menu σ ν δ) (commandLines : List CommandLine) (place : Nat) :
    Option Bool :=
  commandLines[place]?.map fun commandLine =>
    ((menu.dispatchAll (commandLines.take place)).state.dispatch commandLine).succeeded

theorem contribution_cons_zero (menu : Menu σ ν δ) (first : CommandLine)
    (rest : List CommandLine) :
    menu.contribution (first :: rest) 0 = some (menu.dispatch first).succeeded :=
  rfl

theorem contribution_cons_succ (menu : Menu σ ν δ) (first : CommandLine)
    (rest : List CommandLine) (place : Nat) :
    menu.contribution (first :: rest) (place + 1) =
      (menu.dispatch first).state.contribution rest place :=
  rfl

/-- A command line has a contribution exactly if the list has one at its place. -/
theorem isSome_contribution_iff (menu : Menu σ ν δ) (commandLines : List CommandLine)
    (place : Nat) :
    (menu.contribution commandLines place).isSome = true ↔ place < commandLines.length := by
  simp [contribution]

/-- **A list fails exactly if one of its command lines does.** -/
theorem failed_dispatchAll_iff (menu : Menu σ ν δ) (commandLines : List CommandLine) :
    (menu.dispatchAll commandLines).succeeded = false ↔
      ∃ place, menu.contribution commandLines place = some false := by
  induction commandLines generalizing menu with
  | nil => exact iff_of_false nofun fun ⟨_, absent⟩ => nomatch absent
  | cons first rest ih =>
    have whole : (menu.dispatchAll (first :: rest)).succeeded =
        ((menu.dispatch first).succeeded &&
          ((menu.dispatch first).state.dispatchAll rest).succeeded) := rfl
    rw [whole, Bool.and_eq_false_iff, ih]
    constructor
    · rintro (here | ⟨place, later⟩)
      · exact ⟨0, by rw [contribution_cons_zero, here]⟩
      · exact ⟨place + 1, later⟩
    · rintro ⟨place | place, fails⟩
      · exact .inl (Option.some.inj fails)
      · exact .inr ⟨place, fails⟩

/-- A list succeeds exactly if each of its command lines does. -/
theorem succeeded_dispatchAll_iff (menu : Menu σ ν δ) (commandLines : List CommandLine) :
    (menu.dispatchAll commandLines).succeeded = true ↔
      ∀ place < commandLines.length, menu.contribution commandLines place = some true := by
  rw [← Bool.not_eq_false, failed_dispatchAll_iff]
  constructor
  · intro faultless place inside
    obtain ⟨succeeded, present⟩ :=
      Option.isSome_iff_exists.mp ((menu.isSome_contribution_iff commandLines place).mpr inside)
    cases succeeded with
    | true => exact present
    | false => exact absurd ⟨place, present⟩ faultless
  · rintro all ⟨place, fails⟩
    have inside := (menu.isSome_contribution_iff commandLines place).mp (by rw [fails]; rfl)
    rw [all place inside] at fails
    cases fails

/-- The command line at a place of a list is the first that fails. -/
structure IsFirstFailure (menu : Menu σ ν δ) (commandLines : List CommandLine) (place : Nat) :
    Prop where
  fails : menu.contribution commandLines place = some false
  before : ∀ earlier < place, menu.contribution commandLines earlier = some true

theorem IsFirstFailure.tail {menu : Menu σ ν δ} {first : CommandLine} {rest : List CommandLine}
    {place : Nat} (failure : menu.IsFirstFailure (first :: rest) (place + 1)) :
    (menu.dispatch first).state.IsFirstFailure rest place where
  fails := (menu.contribution_cons_succ first rest place).symm.trans failure.fails
  before := by
    intro earlier less
    rw [← contribution_cons_succ]
    exact failure.before (earlier + 1) (Nat.succ_lt_succ less)

/-- **A front that meets a failure ends with it.** -/
theorem attempted_of_firstFailure {menu : Menu σ ν δ} {commandLines : List CommandLine}
    {place : Nat} (failure : menu.IsFirstFailure commandLines place) :
    menu.attempted commandLines = commandLines.take (place + 1) ∧
      (menu.dispatchAll (commandLines.take (place + 1))).succeeded = false := by
  induction commandLines generalizing menu place with
  | nil => cases failure.fails
  | cons first rest ih =>
    rw [List.take_succ_cons, dispatchAll_cons]
    cases place with
    | zero =>
      have failed : (menu.dispatch first).succeeded = false := Option.some.inj failure.fails
      refine ⟨attempted_of_failed failed rest, ?_⟩
      show ((menu.dispatch first).succeeded && _) = false
      rw [failed, Bool.false_and]
    | succ place =>
      have succeeded : (menu.dispatch first).succeeded = true :=
        Option.some.inj (failure.before 0 (Nat.succ_pos place))
      obtain ⟨front, failed⟩ := ih failure.tail
      refine ⟨by rw [attempted_of_succeeded succeeded, front], ?_⟩
      show (_ && ((menu.dispatch first).state.dispatchAll (rest.take (place + 1))).succeeded) = false
      rw [failed, Bool.and_false]

/-- **A list without failures is dispatched as a whole.** -/
theorem attempted_of_no_failure {menu : Menu σ ν δ} {commandLines : List CommandLine}
    (faultless : ∀ place, menu.contribution commandLines place ≠ some false) :
    menu.attempted commandLines = commandLines ∧
      (menu.dispatchAll commandLines).succeeded = true := by
  refine ⟨?front, ?whole⟩
  case front =>
    induction commandLines generalizing menu with
    | nil => rfl
    | cons first rest ih =>
      have succeeded : (menu.dispatch first).succeeded = true := by
        have here := faultless 0
        rw [contribution_cons_zero] at here
        simpa using here
      rw [attempted_of_succeeded succeeded, ih fun place => faultless (place + 1)]
  case whole =>
    rw [← Bool.not_eq_false, failed_dispatchAll_iff]
    exact fun ⟨place, fails⟩ => faultless place fails

/-! ## Replays -/

theorem handed_replay (commandLines : List CommandLine) (reads : Nat) :
    handed (Replay.mk commandLines reads) = commandLines := by
  induction commandLines generalizing reads with
  | nil => exact handed_of_exhausted rfl
  | cons first rest ih =>
    have found : (Source.next (Replay.mk (first :: rest) reads)).commandLine = some first := rfl
    rw [handed_of_next found]
    exact congrArg (first :: ·) (ih (reads + 1))

/-- **A session over a replay reads its front and nothing behind it.** -/
theorem source_runSession_replay (menu : Menu σ ν δ) (commandLines : List CommandLine)
    (reads : Nat) :
    (menu.runSession (Replay.mk commandLines reads)).source =
      ⟨commandLines.drop (menu.attempted commandLines).length,
        reads + (menu.attempted commandLines).length⟩ := by
  induction commandLines generalizing menu reads with
  | nil =>
    have exhausted : (Source.next (Replay.mk [] reads)).commandLine = none := rfl
    rw [runSession_of_exhausted exhausted]
    rfl
  | cons first rest ih =>
    have found : (Source.next (Replay.mk (first :: rest) reads)).commandLine = some first := rfl
    cases succeeded : (menu.dispatch first).succeeded with
    | true =>
      rw [runSession_of_succeeded found succeeded, attempted_of_succeeded succeeded,
        List.length_cons, List.drop_succ_cons, Nat.add_comm _ 1, ← Nat.add_assoc]
      exact ih (menu.dispatch first).state (reads + 1)
    | false =>
      rw [runSession_of_failed found succeeded, attempted_of_failed succeeded]
      rfl

/-! ## Batches -/

/-- The batch of two lists put together is the first batch and then the second. -/
theorem runBatch_append (menu : Menu σ ν δ) (first second : List CommandLine) :
    (menu.runBatch (first ++ second)).state =
        ((menu.runBatch first).state.runBatch second).state ∧
      (menu.runBatch (first ++ second)).succeeded =
        ((menu.runBatch first).succeeded &&
          ((menu.runBatch first).state.runBatch second).succeeded) := by
  have whole : menu.dispatchAll (first ++ second) =
      (menu.dispatchAll first).andThen fun next => next.dispatchAll second :=
    Outcome.runAll_append dispatch menu first second
  show (menu.dispatchAll (first ++ second)).state = _ ∧
    (menu.dispatchAll (first ++ second)).succeeded = _
  rw [whole]
  exact ⟨rfl, rfl⟩

/-- **A session over a list is the batch cut behind the first failure.** If the list has a
first command line that fails after those before it, the session hands out the command lines
up to and including that one, fails, and leaves the menu that the batch of these leaves. If
no command line fails, the session hands out all of them, succeeds, and leaves the menu that
the batch of the whole list leaves. A batch itself is never cut: the batch of two lists put
together is the first batch and then the second, and succeeds if both do. -/
theorem session_is_cut_batch (menu : Menu σ ν δ) (commandLines : List CommandLine) :
    let session := menu.runSession (Replay.mk commandLines 0)
    (∀ place, menu.IsFirstFailure commandLines place →
      session.outcome.succeeded = false ∧
      session.source.reads = place + 1 ∧
      session.source.remaining = commandLines.drop (place + 1) ∧
      session.source.remaining.length = commandLines.length - place - 1 ∧
      session.outcome.state = (menu.runBatch (commandLines.take (place + 1))).state) ∧
    ((¬ ∃ place, menu.contribution commandLines place = some false) →
      session.outcome.succeeded = true ∧
      session.source.reads = commandLines.length ∧
      session.source.remaining = [] ∧
      session.outcome.state = (menu.runBatch commandLines).state) ∧
    ∀ first second,
      (menu.runBatch (first ++ second)).state =
        ((menu.runBatch first).state.runBatch second).state ∧
      (menu.runBatch (first ++ second)).succeeded =
        ((menu.runBatch first).succeeded &&
          ((menu.runBatch first).state.runBatch second).succeeded) := by
  intro session
  have reading : session.source = _ := source_runSession_replay menu commandLines 0
  obtain ⟨result, state⟩ := runSession_eq_dispatchAll menu (Replay.mk commandLines 0)
  rw [handed_replay] at result state
  refine ⟨?_, ?_, menu.runBatch_append⟩
  · intro place failure
    obtain ⟨front, failed⟩ := attempted_of_firstFailure failure
    -- The place of the failure lies inside the list, so the front has one more than `place`.
    have inside : place < commandLines.length := by
      have present := failure.fails
      rw [contribution, Option.map_eq_some_iff] at present
      obtain ⟨commandLine, found, _⟩ := present
      exact (List.getElem?_eq_some_iff.mp found).1
    have count : (commandLines.take (place + 1)).length = place + 1 :=
      List.length_take_of_le inside
    rw [front] at result state reading
    rw [count] at reading
    refine ⟨result.trans failed, ?_, ?_, ?_, state⟩
    · rw [reading]
      exact Nat.zero_add _
    · rw [reading]
    · rw [reading, List.length_drop]
      omega
  · intro faultless
    obtain ⟨front, succeeded⟩ :=
      attempted_of_no_failure fun place failed => faultless ⟨place, failed⟩
    rw [front] at result state reading
    refine ⟨result.trans succeeded, ?_, ?_, state⟩
    · rw [reading]
      exact Nat.zero_add _
    · rw [reading]
      exact List.drop_length

/-- A rehearsal whose second execution fails reads three of five command lines: the empty one
behind the failure and the last are left. -/
theorem session_is_cut_batch_in_rehearsal :
    let menu := Rehearsal.menu "rehearsal" .defaults [true, false, true] true true
    let commandLines : List CommandLine :=
      [["Calibrate"], ["help"], ["SetTilt", "5"], [], ["listdb"]]
    let session := menu.runSession (Replay.mk commandLines 0)
    menu.IsFirstFailure commandLines 2 ∧ session.outcome.succeeded = false ∧
      session.source = ⟨[[], ["listdb"]], 3⟩ ∧
      session.outcome.state = (menu.runBatch [["Calibrate"], ["help"], ["SetTilt", "5"]]).state ∧
      session.outcome.state.executor.executions = 2 := by
  intro menu commandLines session
  have failure : menu.IsFirstFailure commandLines 2 := by
    refine ⟨rfl, ?_⟩
    intro earlier less
    match earlier, less with
    | 0, _ => rfl
    | 1, _ => rfl
  obtain ⟨failed, reads, remaining, _, state⟩ :=
    (session_is_cut_batch menu commandLines).1 2 failure
  refine ⟨failure, failed, ?_, state, ?_⟩
  · rw [← show (⟨session.source.remaining, session.source.reads⟩ : Replay) = session.source from rfl,
      reads, remaining]
    rfl
  · rw [state]
    rfl

end TiltMenu.Menu
