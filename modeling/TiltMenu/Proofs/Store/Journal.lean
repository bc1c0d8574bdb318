import TiltMenu.Proofs.Store.Transaction
import TiltMenu.Store.Json

/-!
# A store and its journal

A store may be changed in any way (`Change`): parameters are put in, values are set, command lines
are run, and another store takes its place, which is empty, as delivered or read from JSON. Beside
it a journal is kept of what was written since the store was last replaced, in the order of writing
and with every repetition (`journal`). What failed is not in it.

Of each key the store holds what the journal has last (`Holds`). Every change keeps this
(`holds_after`), so it is true after every history (`holds_history`).
-/

set_option autoImplicit false

namespace TiltMenu.Store

/-! ## Changes -/

/-- What can be done with a store. -/
inductive Change where
  | insert (key : String) (parameter : Parameter)
  | set (key : String) (value : Value)
  | command (commandLine : CommandLine)
  /-- An empty store takes its place. -/
  | clear
  /-- The store as it is delivered takes its place. -/
  | deliver
  /-- A store that is read from JSON takes its place, if the text can be read. -/
  | read (text : String)

/-- The store after a change. A change that fails leaves it as it was. -/
def after (store : Store) : Change → Store
  | .insert key parameter => store.insert key parameter
  | .set key value =>
    match store.set key value with
    | .ok changed => changed
    | .error _ => store
  | .command commandLine => (store.run commandLine).state
  | .clear => empty
  | .deliver => defaults
  | .read text => (deserialize? text).getD store

/-- The store after the changes of a history, which begins with an empty one. -/
def history (changes : List Change) : Store := changes.foldl after empty

/-! ## The journal -/

/-- Something that is written: a parameter that is put in, or the value of one that is there. -/
inductive Write where
  | put (key : String) (parameter : Parameter)
  | assign (key : String) (value : Value)
  deriving DecidableEq

namespace Write

/-- The value that a key gets. -/
def valueOf? (key : String) : Write → Option Value
  | .put written parameter => if written = key then some parameter.value else none
  | .assign written value => if written = key then some value else none

/-- The access that a key gets. Only a parameter that is put in brings one. -/
def accessOf? (key : String) : Write → Option Access
  | .put written parameter => if written = key then some parameter.access else none
  | .assign _ _ => none

/-- The key of a parameter that is put in. -/
def insertedKey? : Write → Option String
  | .put key _ => some key
  | .assign _ _ => none

end Write

/-- What the last of those writes gives that give anything. -/
def last? {α : Type} (of? : Write → Option α) (journal : List Write) : Option α :=
  journal.reverse.findSome? of?

/-- The keys of the parameters that were put in, with repetitions. -/
def insertedKeys (journal : List Write) : List String := journal.filterMap Write.insertedKey?

/-- The journal of a store that is made by putting in the parameters of a list. -/
def insertions (entries : List (String × Parameter)) : List Write :=
  entries.map fun entry => .put entry.1 entry.2

/-- The parameters of the delivered store in the order in which they are put in. -/
def deliveredEntries : List (String × Parameter) :=
  [(Key.minTilt, ⟨.int 0, .readWrite⟩),
    (Key.maxTilt, ⟨.int 100, .readWrite⟩),
    (Key.tiltStep, ⟨.int 1, .readWrite⟩),
    (Key.vendorCode, ⟨.text "AL", .readWrite⟩),
    (Key.serialNumber, ⟨.text "ALMAG00000001", .readOnly⟩),
    (Key.deviceType, ⟨.text "RET", .readOnly⟩),
    (Key.installationDate, ⟨.text "", .readWrite⟩),
    (Key.baseStationId, ⟨.text "", .readWrite⟩)]

/-- The parameters that JSON lists, in its order and with its repetitions. -/
def listedEntries? : Json → Option (List (String × Parameter))
  | .object members => members.mapM entryOfMember?
  | _ => none

/-- The parameters that JSON lists as the entries of a store. -/
def storeEntries? : Json → Option (List (String × Parameter))
  | .array [entries] => listedEntries? entries
  | .object members => do
    let known ← Json.knownMembers? ["entries"] members
    listedEntries? (← known.lookup "entries")
  | _ => none

/-- The parameters that a text lists as the entries of a store. -/
def writtenEntries? (text : String) : Option (List (String × Parameter)) := do
  storeEntries? (← Json.parse? text.toList)

/-- The journal after a request that was granted. -/
def Request.note (journal : List Write) : Request → List Write
  | .set key value => journal ++ [.assign key value]
  | .reset => insertions deliveredEntries
  | .get _ | .list => journal

/-- The journal after a change of a store. What fails is not noted, and a store that takes the
place of another begins with a journal of its own. -/
def Change.note (store : Store) (journal : List Write) : Change → List Write
  | .insert key parameter => journal ++ [.put key parameter]
  | .set key value =>
    match store.set key value with
    | .ok _ => journal ++ [.assign key value]
    | .error _ => journal
  | .command commandLine =>
    match Request.parse store commandLine, (store.run commandLine).succeeded with
    | .ok request, true => request.note journal
    | _, _ => journal
  | .clear => []
  | .deliver => insertions deliveredEntries
  | .read text => ((writtenEntries? text).map insertions).getD journal

/-- The journal after the changes of a list. -/
def journalFrom (store : Store) (journal : List Write) : List Change → List Write
  | [] => journal
  | first :: rest => journalFrom (store.after first) (first.note store journal) rest

/-- What was written in a history since the store was last replaced. -/
def journal (changes : List Change) : List Write := journalFrom empty [] changes

/-! ## What is last in a journal -/

theorem last?_concat {α : Type} (of? : Write → Option α) (journal : List Write) (write : Write) :
    last? of? (journal ++ [write]) = (of? write).or (last? of? journal) := by
  rw [last?, List.reverse_append, List.findSome?_append]
  simp [last?]

theorem last?_accessOf?_eq_none_iff (journal : List Write) (key : String) :
    last? (Write.accessOf? key) journal = none ↔ key ∉ insertedKeys journal := by
  have given (write : Write) : write.accessOf? key = none ↔ write.insertedKey? ≠ some key := by
    cases write <;> simp [Write.accessOf?, Write.insertedKey?]
  simp [last?, insertedKeys, given]

/-! ## The store holds what is last -/

/-- Of each key the store has the value and the access that the journal has last. -/
structure Holds (journal : List Write) (store : Store) : Prop where
  value : ∀ key, (store.get? key).map (·.value) = last? (Write.valueOf? key) journal
  access : ∀ key, (store.get? key).map (·.access) = last? (Write.accessOf? key) journal

theorem holds_empty : Holds [] empty := ⟨fun _ => rfl, fun _ => rfl⟩

/-- A part of what a key has after something else was put there: that of what is new, or else the
one from before. -/
theorem map_replaced {α : Type} (part : Parameter → α) (key other : String) (new : Parameter)
    (old : Option Parameter) :
    (if other = key then some new else old).map part =
      (if key = other then some (part new) else none).or (old.map part) := by
  by_cases same : other = key
  · simp [same]
  · simp [same, Ne.symm same]

namespace Holds

variable {journal : List Write} {store : Store}

theorem insert (holds : Holds journal store) (key : String) (parameter : Parameter) :
    Holds (journal ++ [.put key parameter]) (store.insert key parameter) where
  value other := by
    rw [last?_concat, get?_insert, ← holds.value]
    exact map_replaced _ key other parameter _
  access other := by
    rw [last?_concat, get?_insert, ← holds.access]
    exact map_replaced _ key other parameter _

theorem withValue (holds : Holds journal store) {key : String} {held : Parameter}
    (present : store.get? key = some held) (value : Value) :
    Holds (journal ++ [.assign key value]) (store.withValue key value) where
  value other := by
    rw [last?_concat, get?_withValue, ← holds.value, present, Option.map_some]
    exact map_replaced _ key other { held with value := value } _
  access other := by
    -- the access is that of the parameter that was put in, which an assignment leaves
    rw [last?_concat, get?_withValue, ← holds.access, Write.accessOf?, Option.none_or]
    by_cases same : other = key
    · simp [same, present]
    · simp [same]

/-- Putting in the parameters of a list notes each of them. -/
theorem foldl_insert (holds : Holds journal store) (entries : List (String × Parameter)) :
    Holds (journal ++ insertions entries)
      (entries.foldl (fun changed entry => changed.insert entry.1 entry.2) store) := by
  induction entries generalizing journal store with
  | nil => simpa [insertions] using holds
  | cons first rest ih =>
    have later := ih (holds.insert first.1 first.2)
    rwa [List.append_assoc] at later

end Holds

/-- The store of a list is made by putting in its parameters one after the other. -/
theorem ofList_eq_foldl (entries : List (String × Parameter)) :
    ofList entries = entries.foldl (fun changed entry => changed.insert entry.1 entry.2) empty := by
  suffices general : ∀ store : Store,
      (entries.foldl (fun changed entry => changed.insert entry.1 entry.2) store).entries =
        entries.foldl (fun sorted item => Sorted.insert Prod.fst item sorted) store.entries from
    ext (general empty).symm
  induction entries with
  | nil => exact fun _ => rfl
  | cons first rest ih => exact fun store => ih (store.insert first.1 first.2)

theorem holds_ofList (entries : List (String × Parameter)) :
    Holds (insertions entries) (ofList entries) := by
  rw [ofList_eq_foldl]
  exact holds_empty.foldl_insert entries

theorem holds_defaults : Holds (insertions deliveredEntries) defaults := by
  have made : ofList deliveredEntries = defaults := by decide
  exact made ▸ holds_ofList deliveredEntries

/-- A store is read from JSON as the list of its entries. -/
theorem ofJson?_eq (json : Json) : ofJson? json = (storeEntries? json).map ofList := by
  -- the two readings go the same way down to the object of the parameters
  have listed (json : Json) : ofEntriesJson? json = (listedEntries? json).map ofList := by
    cases json <;> rfl
  cases json with
  | array items =>
    match items with
    | [] | _ :: _ :: _ => rfl
    | [entries] => exact listed entries
  | object members =>
    simp only [ofJson?, storeEntries?]
    cases Json.knownMembers? ["entries"] members with
    | none => rfl
    | some known =>
      cases entries : known.lookup "entries" with
      | none => simp [entries]
      | some json => simp [entries, listed]
  | _ => rfl

theorem deserialize?_eq (text : String) :
    deserialize? text = (writtenEntries? text).map ofList := by
  unfold deserialize? writtenEntries?
  cases Json.parse? text.toList with
  | none => rfl
  | some json => exact ofJson?_eq json

/-! ## Every change -/

/-- A run that succeeds does what is noted of its request. -/
theorem Holds.result {journal : List Write} {store : Store} (holds : Holds journal store)
    {request : Request} (fits : request.Fits store) :
    Holds (request.note journal) (request.result store) := by
  cases request with
  | get key => exact holds
  | set key value =>
    obtain ⟨held, present, _⟩ := fits
    exact holds.withValue present value
  | list => exact holds
  | reset => exact holds_defaults

/-- **A change leaves what is noted of it.** -/
theorem holds_after {journal : List Write} {store : Store} (holds : Holds journal store)
    (change : Change) : Holds (change.note store journal) (store.after change) := by
  cases change with
  | insert key parameter => exact holds.insert key parameter
  | set key value =>
    simp only [after, Change.note]
    cases written : store.set key value with
    | error fault => exact holds
    | ok changed =>
      obtain ⟨⟨held, present, _⟩, rfl⟩ := (store.set_eq_ok_iff key value changed).mp written
      exact holds.withValue present value
  | command commandLine =>
    simp only [after, Change.note]
    cases succeeded : (store.run commandLine).succeeded with
    | false =>
      rw [state_run_of_failed succeeded]
      cases Request.parse store commandLine <;> exact holds
    | true =>
      -- a run that succeeds was read as a request, and takes the step of that
      obtain ⟨request, read, admissible⟩ := (store.run_succeeded_iff commandLine).mp succeeded
      rw [state_run_of_parse read admissible, read]
      exact holds.result (fits_of_parse read)
  | clear => exact holds_empty
  | deliver => exact holds_defaults
  | read text =>
    simp only [after, Change.note, deserialize?_eq]
    cases writtenEntries? text with
    | none => exact holds
    | some entries => exact holds_ofList entries

/-- **After any history the store holds what was written last.** -/
theorem holds_history (changes : List Change) : Holds (journal changes) (history changes) := by
  suffices general : ∀ written store, Holds written store →
      Holds (journalFrom store written changes) (changes.foldl after store) from
    general [] empty holds_empty
  induction changes with
  | nil => exact fun _ _ holds => holds
  | cons first rest ih => exact fun _ _ holds => ih _ _ (holds_after holds first)

/-- A text may list a key twice. The store that it replaces is forgotten, and a value of another
type is not written. -/
example :
    let changes : List Change :=
      [.insert "b" ⟨.text "", .readOnly⟩,
        .read "[\x7b\"a\": [1, \"read_write\"], \"a\": [2, \"read_write\"]\x7d]",
        .set "a" (.text "3"), .command ["setdb", "a", "4"]]
    journal changes =
        [.put "a" ⟨.int 1, .readWrite⟩, .put "a" ⟨.int 2, .readWrite⟩, .assign "a" (.int 4)] ∧
      (history changes).entries = [("a", ⟨.int 4, .readWrite⟩)] := by
  decide +kernel

end TiltMenu.Store
