import TiltMenu.Proofs.Store.Transaction

/-!
# Why a command of the store fails

Four things can be wrong with a command line of the store, and several of them at once: it is no
request at all (`IsMalformed`), the key that it names is absent (`NamesMissing`) or may not be
written (`WritesReadOnly`), or the value does not fit, by itself or with the other limits of the
tilt (`WritesUnfit`). Each is said here of the command line and the store alone, whatever else is
wrong.

A fault is of the kind of the first of the four that is wrong (`IsCause`). The run logs the code of
that kind once, and a validator that turns the command line down gives the very fault as its reason
(`failure_names_its_cause`).
-/

set_option autoImplicit false

namespace TiltMenu.Store

open Log (Event)

/-! ## What can be wrong -/

/-- The command line is no request: it has no words, its first word is no command of the store, or
the command takes another number of arguments. -/
inductive IsMalformed : CommandLine → Prop where
  | empty : IsMalformed []
  | unknown {name : String} {arguments : List String} (foreign : ∀ verb : Verb, verb.name ≠ name) :
      IsMalformed (name :: arguments)
  | miscounted {verb : Verb} {arguments : List String} (count : arguments.length ≠ verb.arity) :
      IsMalformed (verb.name :: arguments)

/-- A `getdb` or a `setdb` names a key that the store does not have. -/
def NamesMissing (store : Store) (commandLine : CommandLine) : Prop :=
  ∃ key, store.get? key = none ∧
    (commandLine = [Verb.get.name, key] ∨ ∃ raw, commandLine = assignment key raw)

/-- A `setdb` names a key that may not be written. -/
def WritesReadOnly (store : Store) (commandLine : CommandLine) : Prop :=
  ∃ key raw held, commandLine = assignment key raw ∧ store.get? key = some ⟨held, .readOnly⟩

/-- The text is the second value in words, and that value is of the type of the first. -/
inductive Value.TakesText : Value → String → Value → Prop where
  | text {content raw : String} : TakesText (.text content) raw (.text raw)
  | int {held number : Int64} {raw : String} (digits : Text.readInt64 raw.toList = .ok number) :
      TakesText (.int held) raw (.int number)

/-- The lower end of the tilt exceeds the upper end, or the step is not positive. -/
inductive ViolatesLimits (store : Store) : Prop where
  | window {min max : Int64} (lower : store.int Key.minTilt = .ok min)
      (upper : store.int Key.maxTilt = .ok max) (above : max < min) : ViolatesLimits store
  | step {step : Int64} (grid : store.int Key.tiltStep = .ok step) (small : step ≤ 0) :
      ViolatesLimits store

/-- The key holds an integer and the text is none of 64 bits, or the store with the value of the
text under the key violates the limits. -/
inductive Unfit (store : Store) (key raw : String) : Prop where
  | notInteger {held : Int64} {access : Access}
      (present : store.get? key = some ⟨.int held, access⟩)
      (unread : ∀ number, Text.readInt64 raw.toList ≠ .ok number) : Unfit store key raw
  | violating {held value : Value} {access : Access}
      (present : store.get? key = some ⟨held, access⟩) (takes : held.TakesText raw value)
      (violates : (store.withValue key value).ViolatesLimits) :
      Unfit store key raw

/-- A `setdb` writes a text that does not fit. -/
def WritesUnfit (store : Store) (commandLine : CommandLine) : Prop :=
  ∃ key raw, commandLine = assignment key raw ∧ store.Unfit key raw

theorem isConsistent_iff_not_violatesLimits (store : Store) :
    store.IsConsistent ↔ ¬ store.ViolatesLimits := by
  rw [isConsistent_iff]
  constructor
  · rintro ⟨ordered, positive⟩ (⟨lower, upper, above⟩ | ⟨grid, small⟩)
    · exact Int64.not_le.mpr above (ordered _ _ lower upper)
    · exact Int64.not_lt.mpr small (positive _ grid)
  · intro respects
    refine ⟨?_, ?_⟩
    · intro min max lower upper
      exact Int64.not_lt.mp fun above => respects (.window lower upper above)
    · intro step grid
      exact Int64.not_le.mp fun small => respects (.step grid small)

/-- For a key that may be written a text is read as the value that it is in words. -/
theorem parseValue_eq_ok_iff {store : Store} {key raw : String} {held value : Value}
    (present : store.get? key = some ⟨held, .readWrite⟩) :
    store.parseValue key raw = .ok value ↔ held.TakesText raw value := by
  constructor
  · intro read
    have way := store.readsValue key raw
    rw [read] at way
    cases way with
    | text found =>
      cases present.symm.trans found
      exact .text
    | int found digits =>
      cases present.symm.trans found
      exact .int digits
  · rintro (_ | digits)
    · simp only [parseValue, present]
    · simp only [parseValue, present, digits]

/-! ## Command lines that are well formed -/

theorem Verb.ofName?_name (verb : Verb) : ofName? verb.name = some verb := by
  cases verb <;> rfl

theorem Verb.name_injective : Function.Injective Verb.name := by
  intro left right same
  have found := right.ofName?_name
  rw [← same, left.ofName?_name] at found
  exact Option.some.inj found

/-- A command with as many arguments as it takes is well formed. -/
theorem not_isMalformed {verb : Verb} {arguments : List String}
    (count : arguments.length = verb.arity) : ¬ IsMalformed (verb.name :: arguments) := by
  intro malformed
  generalize line : verb.name :: arguments = commandLine at malformed
  cases malformed with
  | empty => cases line
  | unknown foreign => exact foreign verb (List.cons.inj line).1
  | miscounted miscount =>
    obtain ⟨same, rfl⟩ := List.cons.inj line
    obtain rfl := Verb.name_injective same
    exact miscount count

section Assignments

variable {store : Store} {key raw : String}

theorem not_isMalformed_assignment : ¬ IsMalformed (assignment key raw) :=
  not_isMalformed rfl

theorem namesMissing_assignment_iff :
    store.NamesMissing (assignment key raw) ↔ store.get? key = none := by
  simp [NamesMissing, assignment]

theorem writesReadOnly_assignment_iff :
    store.WritesReadOnly (assignment key raw) ↔
      ∃ held, store.get? key = some ⟨held, .readOnly⟩ := by
  simp [WritesReadOnly, assignment]

theorem writesUnfit_assignment_iff :
    store.WritesUnfit (assignment key raw) ↔ store.Unfit key raw := by
  refine ⟨?_, fun unfit => ⟨key, raw, rfl, unfit⟩⟩
  rintro ⟨_, _, line, unfit⟩
  cases line
  exact unfit

/-- **A text that is read as a value for a key is unfit only if the limits are violated then.** -/
theorem unfit_iff_of_parseValue {value : Value} (read : store.parseValue key raw = .ok value) :
    store.Unfit key raw ↔ (store.withValue key value).ViolatesLimits := by
  obtain ⟨held, present, _⟩ := fits_of_parseValue read
  have takes := (parseValue_eq_ok_iff present).mp read
  refine ⟨?_, .violating present takes⟩
  rintro (⟨found, unread⟩ | ⟨found, taken, violates⟩)
  · cases present.symm.trans found
    cases takes with
    | int digits => exact absurd digits (unread _)
  · cases present.symm.trans found
    have again := (parseValue_eq_ok_iff present).mpr taken
    cases read.symm.trans again
    exact violates

end Assignments

/-! ## The cause of a fault -/

/-- The kind of the first thing that is wrong with the command line. -/
inductive IsCause (store : Store) (commandLine : CommandLine) : FaultKind → Prop where
  | malformed (malformed : IsMalformed commandLine) : IsCause store commandLine .invalidInput
  | missing (wellFormed : ¬ IsMalformed commandLine) (missing : store.NamesMissing commandLine) :
      IsCause store commandLine .notFound
  | readOnly (wellFormed : ¬ IsMalformed commandLine) (present : ¬ store.NamesMissing commandLine)
      (locked : store.WritesReadOnly commandLine) : IsCause store commandLine .readOnly
  | unfit (wellFormed : ¬ IsMalformed commandLine) (present : ¬ store.NamesMissing commandLine)
      (writable : ¬ store.WritesReadOnly commandLine) (unfit : store.WritesUnfit commandLine) :
      IsCause store commandLine .typeMismatch

/-- Of a `setdb` to a key that may be written only the value can be wrong. -/
theorem isCause_of_unfit {store : Store} {key raw : String} {held : Value}
    (present : store.get? key = some ⟨held, .readWrite⟩) (unfit : store.Unfit key raw) :
    IsCause store (assignment key raw) .typeMismatch := by
  refine .unfit not_isMalformed_assignment ?_ ?_ (writesUnfit_assignment_iff.mpr unfit)
  · simp [namesMissing_assignment_iff, present]
  · simp [writesReadOnly_assignment_iff, present]

/-- A text is not read as a value for the first thing that is wrong. -/
theorem isCause_of_parseValue_error {store : Store} {key raw : String} {fault : Fault}
    (unread : store.parseValue key raw = .error fault) :
    IsCause store (assignment key raw) fault.kind := by
  have way := store.readsValue key raw
  rw [unread] at way
  cases way with
  | missing absent =>
    exact .missing not_isMalformed_assignment (namesMissing_assignment_iff.mpr absent)
  | locked present =>
    refine .readOnly not_isMalformed_assignment ?_ (writesReadOnly_assignment_iff.mpr ⟨_, present⟩)
    simp [namesMissing_assignment_iff, present]
  | malformed present digits =>
    exact isCause_of_unfit present (.notInteger present (by simp [digits]))

/-- So is a command line not read as a request. -/
theorem isCause_of_parse_error {store : Store} {commandLine : CommandLine} {fault : Fault}
    (unread : Request.parse store commandLine = .error fault) :
    IsCause store commandLine fault.kind := by
  have way := Request.reads store commandLine
  rw [unread] at way
  cases way with
  | empty => exact .malformed .empty
  | unsupported unknown =>
    refine .malformed (.unknown ?_)
    rintro verb rfl
    rw [Verb.ofName?_name] at unknown
    cases unknown
  | miscounted known count =>
    obtain rfl := Verb.name_of_ofName? known
    exact .malformed (.miscounted count)
  | @getMissing name key known absent =>
    obtain rfl := Verb.name_of_ofName? known
    exact .missing (not_isMalformed rfl) ⟨key, absent, .inl rfl⟩
  | setUnread known refused =>
    obtain rfl := Verb.name_of_ofName? known
    exact isCause_of_parseValue_error refused

theorem kind_of_inconsistency {store : Store} {fault : Fault}
    (inconsistent : store.inconsistency? = some fault) : fault.kind = .typeMismatch := by
  rw [inconsistency?, Option.orElse_eq_orElse, Option.orElse_eq_or, Option.or_eq_some_iff]
    at inconsistent
  rcases inconsistent with window | ⟨_, step⟩
  · unfold windowFault? at window
    split at window
    · split at window
      · cases window
        rfl
      · cases window
    · cases window
  · unfold stepFault? at step
    split at step
    · split at step
      · cases step
        rfl
      · cases step
    · cases step

/-- **A command line of the store fails for the first thing that is wrong with it.** -/
theorem isCause_of_execute_error {store : Store} {commandLine : CommandLine} {fault : Fault}
    (failed : store.execute commandLine = .error fault) :
    IsCause store commandLine fault.kind := by
  cases read : Request.parse store commandLine with
  | error cause =>
    simp only [execute, read, Except.error.injEq] at failed
    subst failed
    exact isCause_of_parse_error read
  | ok request =>
    simp only [execute, read] at failed
    rcases grant_eq (fits_of_parse read) with
      ⟨_, granted⟩ | ⟨key, value, cause, rfl, inadmissible, inconsistent, refused⟩
    · rw [granted] at failed
      cases failed
    · rw [refused, Except.error.injEq] at failed
      subst failed
      rw [kind_of_inconsistency inconsistent]
      have way := Request.reads store commandLine
      rw [read] at way
      cases way with
      | set known parsed =>
        obtain rfl := Verb.name_of_ofName? known
        obtain ⟨held, present, _⟩ := fits_of_parseValue parsed
        refine isCause_of_unfit present ((unfit_iff_of_parseValue parsed).mpr ?_)
        exact Classical.not_not.mp (mt (isConsistent_iff_not_violatesLimits _).mpr inadmissible)

/-- **With a command line that is read as an admissible request nothing is wrong.** -/
theorem nothing_wrong_of_parse {store : Store} {commandLine : CommandLine} {request : Request}
    (read : Request.parse store commandLine = .ok request)
    (admissible : request.Admissible store) :
    ¬ IsMalformed commandLine ∧ ¬ store.NamesMissing commandLine ∧
      ¬ store.WritesReadOnly commandLine ∧ ¬ store.WritesUnfit commandLine := by
  have way := Request.reads store commandLine
  rw [read] at way
  cases way with
  | get known present =>
    obtain rfl := Verb.name_of_ofName? known
    refine ⟨not_isMalformed rfl, ?_⟩
    simp [NamesMissing, WritesReadOnly, WritesUnfit, assignment, present]
  | @set name key raw value known parsed =>
    obtain rfl := Verb.name_of_ofName? known
    obtain ⟨held, present, _⟩ := fits_of_parseValue parsed
    have unviolated := (isConsistent_iff_not_violatesLimits _).mp admissible
    show ¬ IsMalformed (assignment key raw) ∧ ¬ store.NamesMissing (assignment key raw) ∧
      ¬ store.WritesReadOnly (assignment key raw) ∧ ¬ store.WritesUnfit (assignment key raw)
    rw [namesMissing_assignment_iff, writesReadOnly_assignment_iff, writesUnfit_assignment_iff,
      unfit_iff_of_parseValue parsed]
    exact ⟨not_isMalformed_assignment, by simp [present], by simp [present], unviolated⟩
  | list known =>
    obtain rfl := Verb.name_of_ofName? known
    refine ⟨not_isMalformed rfl, ?_⟩
    simp [NamesMissing, WritesReadOnly, WritesUnfit, assignment]
  | reset known =>
    obtain rfl := Verb.name_of_ofName? known
    refine ⟨not_isMalformed rfl, ?_⟩
    simp [NamesMissing, WritesReadOnly, WritesUnfit, assignment]

/-! ## Failing runs -/

theorem IsCause.something_wrong {store : Store} {commandLine : CommandLine} {kind : FaultKind}
    (cause : IsCause store commandLine kind) :
    IsMalformed commandLine ∨ store.NamesMissing commandLine ∨
      store.WritesReadOnly commandLine ∨ store.WritesUnfit commandLine := by
  cases cause with
  | malformed malformed => exact .inl malformed
  | missing _ missing => exact .inr (.inl missing)
  | readOnly _ _ locked => exact .inr (.inr (.inl locked))
  | unfit _ _ _ unfit => exact .inr (.inr (.inr unfit))

/-- A run that fails has a fault. -/
theorem exists_fault_of_run_failed {store : Store} {commandLine : CommandLine}
    (failed : (store.run commandLine).succeeded = false) :
    ∃ fault, store.execute commandLine = .error fault := by
  rcases store.execute_cases commandLine with refused | ⟨request, _, _, granted⟩
  · exact refused
  · simp [(run_of_execute_ok granted).1] at failed

/-- **A run fails exactly if something is wrong with the command line.** -/
theorem run_failed_iff (store : Store) (commandLine : CommandLine) :
    (store.run commandLine).succeeded = false ↔
      IsMalformed commandLine ∨ store.NamesMissing commandLine ∨
        store.WritesReadOnly commandLine ∨ store.WritesUnfit commandLine := by
  constructor
  · intro failed
    obtain ⟨fault, refused⟩ := exists_fault_of_run_failed failed
    exact (isCause_of_execute_error refused).something_wrong
  · intro wrong
    rw [← Bool.not_eq_true, run_succeeded_iff]
    rintro ⟨request, read, admissible⟩
    obtain ⟨wellFormed, present, writable, fit⟩ := nothing_wrong_of_parse read admissible
    simp [wellFormed, present, writable, fit] at wrong

/-- The code in the log is that of the first thing that is wrong. -/
structure NamesCause (store : Store) (commandLine : CommandLine) (code : String) : Prop where
  malformed : code = "ERR_INVALID_INPUT" ↔ IsMalformed commandLine
  missing : ¬ IsMalformed commandLine →
    (code = "ERR_NOT_FOUND" ↔ store.NamesMissing commandLine)
  readOnly : ¬ IsMalformed commandLine → ¬ store.NamesMissing commandLine →
    (code = "ERR_READ_ONLY" ↔ store.WritesReadOnly commandLine)
  otherwise : ¬ IsMalformed commandLine → ¬ store.NamesMissing commandLine →
    ¬ store.WritesReadOnly commandLine → code = "ERR_TYPE_MISMATCH"
  unfit : code = "ERR_TYPE_MISMATCH" ↔ ¬ IsMalformed commandLine ∧
    ¬ store.NamesMissing commandLine ∧ ¬ store.WritesReadOnly commandLine ∧
      store.WritesUnfit commandLine

theorem IsCause.namesCause {store : Store} {commandLine : CommandLine} {kind : FaultKind}
    (cause : IsCause store commandLine kind) : NamesCause store commandLine kind.code := by
  cases cause with
  | malformed malformed => constructor <;> simp [FaultKind.code, malformed]
  | missing wellFormed missing => constructor <;> simp [FaultKind.code, wellFormed, missing]
  | readOnly wellFormed present locked =>
    constructor <;> simp [FaultKind.code, wellFormed, present, locked]
  | unfit wellFormed present writable unfit =>
    constructor <;> simp [FaultKind.code, wellFormed, present, writable, unfit]

/-- A run that fails logs one event that ends with an error, and that event tells the fault. -/
theorem end_errors_of_execute_error {store : Store} {commandLine : CommandLine} {fault : Fault}
    (refused : store.execute commandLine = .error fault) :
    ∃ closing, (store.run commandLine).events.filter (·.stage = some "end_error") = [closing] ∧
      closing.message = some fault.report.text ∧
      closing.detail? "err.code" = some (.text fault.kind.code) := by
  unfold run
  rw [refused]
  exact ⟨_, rfl, rfl, rfl⟩

/-- **A failing command of the store says exactly why.** A run fails if and only if something is
wrong with the command line. It then has one fault, and it logs one event that ends with an error.
The code in that event is the code of the first thing that is wrong: no request at all, a key that
is absent, a key that may not be written, a value that does not fit. A command line that the
validator turns down fails when it is run, and the reason that the validator logs is the wording of
the very fault of the run. That holds of any store, consistent or not, and any command line. -/
theorem failure_names_its_cause (rules : Rules) (store : Store) (commandLine : CommandLine) :
    let inspected := Validator.inspect rules store commandLine
    let ran := store.run commandLine
    (ran.succeeded = false ↔
      IsMalformed commandLine ∨ store.NamesMissing commandLine ∨
        store.WritesReadOnly commandLine ∨ store.WritesUnfit commandLine) ∧
    (ran.succeeded = false →
      ∃ fault closing, store.execute commandLine = .error fault ∧
        ran.events.filter (·.stage = some "end_error") = [closing] ∧
        closing.message = some fault.report.text ∧
        closing.detail? "err.code" = some (.text fault.kind.code) ∧
        NamesCause store commandLine fault.kind.code) ∧
    (inspected.accepted = none →
      ∃ fault warning, store.execute commandLine = .error fault ∧ ran.succeeded = false ∧
        inspected.events = [warning] ∧
        warning.detail? "reason" = some (.text fault.message)) := by
  intro inspected ran
  refine ⟨store.run_failed_iff commandLine, ?fails, ?turnedDown⟩
  case fails =>
    intro failed
    obtain ⟨fault, refused⟩ := exists_fault_of_run_failed failed
    obtain ⟨closing, only, message, code⟩ := end_errors_of_execute_error refused
    exact ⟨fault, closing, refused, only, message, code,
      (isCause_of_execute_error refused).namesCause⟩
  case turnedDown =>
    intro turnedDown
    cases read : Request.parse store commandLine with
    | ok request =>
      have accepted := (accepted_iff_parse rules store commandLine request).mpr read
      rw [turnedDown] at accepted
      cases accepted
    | error fault =>
      have refused : store.execute commandLine = .error fault := by simp only [execute, read]
      have warned : inspected.events = [rejected commandLine fault] := by
        show (Verdict.ofReading rules commandLine (Request.parse store commandLine)).events = _
        rw [read]
        rfl
      exact ⟨fault, _, refused, (run_of_execute_error refused).1, warned, rfl⟩

end TiltMenu.Store
