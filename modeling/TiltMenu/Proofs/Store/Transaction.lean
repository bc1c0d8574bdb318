import TiltMenu.Proofs.Store.Lookup
import TiltMenu.Proofs.Store.Reading
import TiltMenu.Store.Command
import TiltMenu.Validation

/-!
# Running a command line of the store as a transaction

A command line is read against the store twice, by the validator and when it is run. A
request that was read fits the store (`fits_of_parse`): its key is there, and a value to be
written has the type of a key that may be written. So of what is done with a request after
it was read, only one thing can go wrong: the store that a `setdb` stages may be
inconsistent (`grant_eq`).

Hence running succeeds exactly when the validator accepts and what is staged is consistent.
It leaves the store as it is or takes the step of the request as a whole
(`state_run_cases`).
-/

set_option autoImplicit false

namespace TiltMenu.Store

/-! ## Requests that fit the store -/

/-- The store has what the request needs. -/
def Request.Fits (store : Store) : Request → Prop
  | .get key => ∃ held, store.get? key = some held
  | .set key value =>
    ∃ held : Value, store.get? key = some ⟨held, .readWrite⟩ ∧ held.sameType value = true
  | .list | .reset => True

/-- A value that is read for a key is of the type of the key, and the key may be written. -/
theorem fits_of_parseValue {store : Store} {key raw : String} {value : Value}
    (read : store.parseValue key raw = .ok value) : (Request.set key value).Fits store := by
  have way := store.readsValue key raw
  rw [read] at way
  cases way with
  | text present => exact ⟨_, present, rfl⟩
  | int present digits => exact ⟨_, present, rfl⟩

/-- **A request that was read fits the store against which it was read.** -/
theorem fits_of_parse {store : Store} {commandLine : CommandLine} {request : Request}
    (read : Request.parse store commandLine = .ok request) : request.Fits store := by
  have way := Request.reads store commandLine
  rw [read] at way
  cases way with
  | get known present => exact ⟨_, present⟩
  | set known value => exact fits_of_parseValue value
  | list known => trivial
  | reset known => trivial

/-! ## Granting a request that fits -/

/-- Writing a value that fits replaces the value of the key and nothing else. -/
theorem set_eq_withValue {store : Store} {key : String} {value : Value}
    (fits : (Request.set key value).Fits store) :
    store.set key value = .ok (store.withValue key value) := by
  obtain ⟨held, present, sameType⟩ := fits
  rw [← insert_eq_withValue present value]
  simp only [set, present, sameType, if_true]

/-- **A value is set exactly if it fits.** -/
theorem set_eq_ok_iff (store : Store) (key : String) (value : Value) (changed : Store) :
    store.set key value = .ok changed ↔
      (Request.set key value).Fits store ∧ changed = store.withValue key value := by
  constructor
  · intro written
    have fits : (Request.set key value).Fits store := by
      unfold set at written
      split at written
      · cases written
      · cases written
      · next held present =>
        split at written
        · next sameType => exact ⟨held, present, sameType⟩
        · cases written
    rw [set_eq_withValue fits] at written
    cases written
    exact ⟨fits, rfl⟩
  · rintro ⟨fits, rfl⟩
    exact set_eq_withValue fits

/-- The store after a request that is granted. -/
def Request.result (store : Store) : Request → Store
  | .get _ | .list => store
  | .set key value => store.withValue key value
  | .reset => defaults

/-- The request stages a consistent store, if it changes anything. -/
def Request.Admissible (store : Store) : Request → Prop
  | .set key value => (store.withValue key value).IsConsistent
  | .get _ | .list | .reset => True

/-- What a request shows that is granted. -/
def Request.shows (store : Store) : Request → List Log.Event
  | .get key => ((store.get? key).map (shown key)).toList
  | .list => store.entries.map fun entry => listed entry.1 entry.2
  | .set _ _ | .reset => []

/-- **A request that fits is granted, unless what it stages is inconsistent.** -/
theorem grant_eq {store : Store} {request : Request} (fits : request.Fits store) :
    (request.Admissible store ∧
        store.grant request = .ok (request.result store, request.shows store)) ∨
      ∃ key value fault, request = .set key value ∧ ¬ request.Admissible store ∧
        (store.withValue key value).inconsistency? = some fault ∧
        store.grant request = .error fault := by
  cases request with
  | get key =>
    obtain ⟨held, present⟩ := fits
    refine .inl ⟨trivial, ?_⟩
    simp [grant, get, present, Except.map, Request.result, Request.shows]
  | set key value =>
    have staged := set_eq_withValue fits
    cases judged : (store.withValue key value).inconsistency? with
    | none =>
      refine .inl ⟨judged, ?_⟩
      simp only [grant, staged, judged, Request.result, Request.shows]
    | some fault =>
      refine .inr ⟨key, value, fault, rfl, ?_, judged, ?_⟩
      · intro consistent
        rw [Request.Admissible, IsConsistent, judged] at consistent
        cases consistent
      · simp only [grant, staged, judged]
  | list => exact .inl ⟨trivial, rfl⟩
  | reset => exact .inl ⟨trivial, rfl⟩

/-! ## Running -/

theorem run_of_execute_ok {store changed : Store} {commandLine : CommandLine}
    {shown : List Log.Event} (granted : store.execute commandLine = .ok (changed, shown)) :
    (store.run commandLine).succeeded = true ∧ (store.run commandLine).state = changed := by
  unfold run
  rw [granted]
  exact ⟨rfl, rfl⟩

theorem run_of_execute_error {store : Store} {commandLine : CommandLine} {fault : Fault}
    (refused : store.execute commandLine = .error fault) :
    (store.run commandLine).succeeded = false ∧ (store.run commandLine).state = store := by
  unfold run
  rw [refused]
  exact ⟨rfl, rfl⟩

/-- Everything that running a command line can come to: it is not read, what it stages is
inconsistent, or the request is granted. -/
theorem run_cases (store : Store) (commandLine : CommandLine) :
    (∃ fault, Request.parse store commandLine = .error fault ∧
        store.execute commandLine = .error fault) ∨
      (∃ request fault, Request.parse store commandLine = .ok request ∧
        ¬ request.Admissible store ∧ store.execute commandLine = .error fault) ∨
      ∃ request, Request.parse store commandLine = .ok request ∧ request.Admissible store ∧
        store.execute commandLine = .ok (request.result store, request.shows store) := by
  cases read : Request.parse store commandLine with
  | error fault => exact .inl ⟨fault, rfl, by simp only [execute, read]⟩
  | ok request =>
    rcases grant_eq (fits_of_parse read) with
      ⟨admissible, granted⟩ | ⟨key, value, fault, _, inadmissible, _, refused⟩
    · exact .inr (.inr ⟨request, rfl, admissible, by simp only [execute, read, granted]⟩)
    · exact .inr (.inl ⟨request, fault, rfl, inadmissible, by simp only [execute, read, refused]⟩)

/-- A run has a fault, or the request is granted. -/
theorem execute_cases (store : Store) (commandLine : CommandLine) :
    (∃ fault, store.execute commandLine = .error fault) ∨
      ∃ request, Request.parse store commandLine = .ok request ∧ request.Admissible store ∧
        store.execute commandLine = .ok (request.result store, request.shows store) := by
  rcases store.run_cases commandLine with ⟨fault, _, refused⟩ | ⟨_, fault, _, _, refused⟩ | granted
  · exact .inl ⟨fault, refused⟩
  · exact .inl ⟨fault, refused⟩
  · exact .inr granted

/-- Running succeeds exactly when the command line is read as an admissible request. -/
theorem run_succeeded_iff (store : Store) (commandLine : CommandLine) :
    (store.run commandLine).succeeded = true ↔
      ∃ request, Request.parse store commandLine = .ok request ∧ request.Admissible store := by
  rcases store.run_cases commandLine with
    ⟨fault, unread, refused⟩ | ⟨request, fault, read, inadmissible, refused⟩ |
      ⟨request, read, admissible, granted⟩
  · simp [(run_of_execute_error refused).1, unread]
  · simp [(run_of_execute_error refused).1, read, inadmissible]
  · simp [(run_of_execute_ok granted).1, read, admissible]

/-- A run that fails leaves the store as it was. -/
theorem state_run_of_failed {store : Store} {commandLine : CommandLine}
    (failed : (store.run commandLine).succeeded = false) :
    (store.run commandLine).state = store := by
  rcases store.execute_cases commandLine with ⟨fault, refused⟩ | ⟨request, _, _, granted⟩
  · exact (run_of_execute_error refused).2
  · rw [(run_of_execute_ok granted).1] at failed
    cases failed

/-- A run that succeeds takes the step of the request. -/
theorem state_run_of_parse {store : Store} {commandLine : CommandLine} {request : Request}
    (read : Request.parse store commandLine = .ok request)
    (admissible : request.Admissible store) :
    (store.run commandLine).state = request.result store := by
  rcases store.run_cases commandLine with
    ⟨fault, unread, _⟩ | ⟨other, fault, same, inadmissible, _⟩ | ⟨other, same, _, granted⟩
  · rw [read] at unread
    cases unread
  · rw [read] at same
    cases same
    exact absurd admissible inadmissible
  · rw [read] at same
    cases same
    exact (run_of_execute_ok granted).2

/-- **A run leaves the store as it is or takes the step of an admissible request.** -/
theorem state_run_cases (store : Store) (commandLine : CommandLine) :
    (store.run commandLine).state = store ∨
      ∃ request, Request.parse store commandLine = .ok request ∧ request.Admissible store ∧
        (store.run commandLine).state = request.result store := by
  rcases store.execute_cases commandLine with
    ⟨fault, refused⟩ | ⟨request, read, admissible, granted⟩
  · exact .inl (run_of_execute_error refused).2
  · exact .inr ⟨request, read, admissible, (run_of_execute_ok granted).2⟩

/-! ## Validator and run -/

/-- The stores differ in the value of one key. The key is there and may be written, and the
value keeps its type. -/
structure Rewritten (before after : Store) (key : String) (value : Value) : Prop where
  held : ∃ held : Value, before.get? key = some ⟨held, .readWrite⟩ ∧ held.sameType value = true
  written : after.get? key = some ⟨value, .readWrite⟩
  others : ∀ other, other ≠ key → after.get? other = before.get? other

theorem rewritten_withValue {store : Store} {key : String} {value : Value}
    (fits : (Request.set key value).Fits store) :
    Rewritten store (store.withValue key value) key value where
  held := fits
  written := by
    obtain ⟨held, present, _⟩ := fits
    rw [get?_withValue_self, present]
    rfl
  others := fun _ apart => get?_withValue_of_ne apart value

/-- What a request that is granted makes of a store. -/
def Request.TakesTo (before after : Store) : Request → Prop
  | .get _ | .list => after = before
  | .set key value => Rewritten before after key value
  | .reset => after = defaults

theorem takesTo_result {store : Store} {request : Request} (fits : request.Fits store) :
    request.TakesTo store (request.result store) := by
  cases request with
  | get key => rfl
  | set key value => exact rewritten_withValue fits
  | list => rfl
  | reset => rfl

theorem accepted_iff_parse (rules : Rules) (store : Store) (commandLine : CommandLine)
    (request : Request) :
    (Validator.inspect rules store commandLine).accepted = some request ↔
      Request.parse store commandLine = .ok request :=
  Verdict.accepted_ofReading_iff rules commandLine _ request

theorem admissible_iff (store : Store) (request : Request) :
    request.Admissible store ↔
      ∀ key value, request = .set key value → (store.withValue key value).IsConsistent := by
  cases request <;> simp [Request.Admissible]

/-- **The validator and the run agree, and a run does all or nothing.** A run succeeds
exactly when the validator accepts and a value to be written leaves the store consistent. A
run that fails changes nothing, one that succeeds does what the accepted request says. Once
the validator has accepted, the second reading, looking up the key of a `getdb` and writing
the value of a `setdb` cannot fail. -/
theorem run_agrees_with_validation (rules : Rules) (store : Store) (commandLine : CommandLine) :
    ((store.run commandLine).succeeded = true ↔
      ∃ request, (Validator.inspect rules store commandLine).accepted = some request ∧
        ∀ key value, request = .set key value → (store.withValue key value).IsConsistent) ∧
    ((store.run commandLine).succeeded = false → (store.run commandLine).state = store) ∧
    ((store.run commandLine).succeeded = true →
      ∃ request, (Validator.inspect rules store commandLine).accepted = some request ∧
        request.TakesTo store (store.run commandLine).state) ∧
    ∀ request, (Validator.inspect rules store commandLine).accepted = some request →
      Request.parse store commandLine = .ok request ∧
      (∀ key, request = .get key → ∃ held, store.get key = .ok held) ∧
      ∀ key value, request = .set key value → ∃ staged, store.set key value = .ok staged := by
  simp only [accepted_iff_parse, ← admissible_iff]
  refine ⟨store.run_succeeded_iff commandLine, state_run_of_failed, ?_, ?_⟩
  · intro succeeded
    obtain ⟨request, read, admissible⟩ := (store.run_succeeded_iff commandLine).mp succeeded
    refine ⟨request, read, ?_⟩
    rw [state_run_of_parse read admissible]
    exact takesTo_result (fits_of_parse read)
  · intro request read
    have fits := fits_of_parse read
    refine ⟨read, ?_, ?_⟩
    · rintro key rfl
      obtain ⟨held, present⟩ := fits
      exact ⟨held, by simp only [get, present]⟩
    · rintro key value rfl
      exact ⟨_, set_eq_withValue fits⟩

end TiltMenu.Store
