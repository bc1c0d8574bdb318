import TiltMenu.Proofs.Store.Transaction

/-!
# The same command line again

A request that was granted leaves a store against which its command line is read as the same
request (`parse_result`) and which the request takes to itself (`result_result`). A `setdb` keeps
the type and the access of its key, so its text is read as the same value again; a `resetdb` leaves
the same store whatever was there. A command line that was not granted meets the store on which it
failed.

So to inspect and run a command line a second time is to get the first answers again, and it
changes nothing (`repeated_command`).
-/

set_option autoImplicit false

namespace TiltMenu.Store

/-! ## A request on the store that it leaves -/

/-- A text is read as the same value for a key that holds this value already. -/
theorem parseValue_withValue {store : Store} {key raw : String} {value : Value}
    (read : store.parseValue key raw = .ok value) :
    (store.withValue key value).parseValue key raw = .ok value := by
  have way := store.readsValue key raw
  rw [read] at way
  cases way with
  | text present => simp only [parseValue, get?_withValue_self, present, Option.map_some]
  | int present digits =>
    simp only [parseValue, get?_withValue_self, present, Option.map_some, digits]

/-- **A command line is read as the same request against the store that the request leaves.** -/
theorem parse_result {store : Store} {commandLine : CommandLine} {request : Request}
    (read : Request.parse store commandLine = .ok request) :
    Request.parse (request.result store) commandLine = .ok request := by
  have way := Request.reads store commandLine
  rw [read] at way
  cases way with
  | get known present => exact read
  | list known => exact read
  | @set name key raw value known parsed =>
    obtain rfl := Verb.name_of_ofName? known
    show Request.parse (store.withValue key value) (assignment key raw) = _
    rw [parse_assignment, parseValue_withValue parsed]
    rfl
  | reset known =>
    obtain rfl := Verb.name_of_ofName? known
    rfl

/-- A request takes the store that it leaves to itself. -/
theorem result_result (store : Store) (request : Request) :
    request.result (request.result store) = request.result store := by
  cases request with
  | get key => rfl
  | set key value => exact store.withValue_withValue key value value
  | list => rfl
  | reset => rfl

/-- It stays admissible. -/
theorem admissible_result {store : Store} {request : Request}
    (admissible : request.Admissible store) : request.Admissible (request.result store) := by
  cases request with
  | get key => trivial
  | set key value =>
    show ((store.withValue key value).withValue key value).IsConsistent
    rw [withValue_withValue]
    exact admissible
  | list => trivial
  | reset => trivial

/-- It shows the same parameters. -/
theorem shows_result (store : Store) (request : Request) :
    request.shows (request.result store) = request.shows store := by
  cases request <;> rfl

/-! ## Again -/

/-- A request that was granted is granted again, with the same result. -/
theorem execute_result {store : Store} {commandLine : CommandLine} {request : Request}
    (read : Request.parse store commandLine = .ok request)
    (admissible : request.Admissible store) :
    (request.result store).execute commandLine =
      .ok (request.result store, request.shows store) := by
  have again := parse_result read
  have stays := admissible_result admissible
  rcases grant_eq (fits_of_parse again) with ⟨_, granted⟩ | ⟨_, _, _, _, inadmissible, _, _⟩
  · simp only [execute, again, granted, result_result, shows_result]
  · exact absurd stays inadmissible

/-- After a run its command line is read as before. -/
theorem parse_state_run (store : Store) (commandLine : CommandLine) :
    Request.parse (store.run commandLine).state commandLine =
      Request.parse store commandLine := by
  rcases store.state_run_cases commandLine with unchanged | ⟨request, read, _, taken⟩
  · rw [unchanged]
  · rw [taken, read, parse_result read]

/-- **A second run has the outcome of the first.** -/
theorem run_state_run (store : Store) (commandLine : CommandLine) :
    (store.run commandLine).state.run commandLine = store.run commandLine := by
  rcases store.execute_cases commandLine with
    ⟨fault, refused⟩ | ⟨request, read, admissible, granted⟩
  · rw [(run_of_execute_error refused).2]
  · rw [(run_of_execute_ok granted).2]
    simp only [run, granted, execute_result read admissible]

/-- Any number of runs leave what the first one left, and succeed if it did. -/
theorem runAll_replicate (store : Store) (commandLine : CommandLine) (count : Nat) :
    let ran := store.run commandLine
    let repeated := Outcome.runAll run store (List.replicate (count + 1) commandLine)
    repeated.state = ran.state ∧ repeated.succeeded = ran.succeeded := by
  induction count generalizing store with
  | zero => simp [Outcome.runAll]
  | succ count ih =>
    intro ran repeated
    obtain ⟨state, succeeded⟩ := ih ran.state
    have first : repeated = ran.andThen fun next =>
        Outcome.runAll run next (List.replicate (count + 1) commandLine) := rfl
    rw [first]
    rw [run_state_run] at state succeeded
    exact ⟨state, by simp [Outcome.andThen, succeeded, ran]⟩

/-- **To give a command line of the store again gets the same answers and changes nothing.** The
validator's verdict, with the request in normal form, is that of the first time, and so is the
outcome of the run: whether it succeeded, the store that it leaves and what it logs. That holds of
any store, consistent or not, and of any command line, granted, failing or not read. However often
it is repeated, the store stays as the first run left it. -/
theorem repeated_command (rules : Rules) (store : Store) (commandLine : CommandLine) :
    let inspected := Validator.inspect rules store commandLine
    let ran := store.run commandLine
    Validator.inspect inspected.validator ran.state commandLine = inspected ∧
      ran.state.run commandLine = ran ∧
      ∀ count,
        let repeated := Outcome.runAll run store (List.replicate (count + 1) commandLine)
        repeated.state = ran.state ∧ repeated.succeeded = ran.succeeded := by
  intro inspected ran
  refine ⟨?verdict, store.run_state_run commandLine, store.runAll_replicate commandLine⟩
  case verdict =>
    show Verdict.ofReading rules commandLine (Request.parse ran.state commandLine) =
      Verdict.ofReading rules commandLine (Request.parse store commandLine)
    rw [parse_state_run]

end TiltMenu.Store
