import TiltMenu.Proofs.Log.Bracket
import TiltMenu.Proofs.Store.Causes

/-!
# What a run of the store logs

A run is bracketed by the events of the operation of the store (`brackets_run`). Its events
belong to that operation or to none, and the only fault that they name is the one with which
the run failed (`of_mem_run_events`). That fault is of one of four kinds
(`kind_of_execute_error`).
-/

set_option autoImplicit false

namespace TiltMenu.Store

open Log (Event)

/-! ## Faults -/

/-- The kinds of the faults with which a command of the store fails. -/
def faultKinds : List FaultKind := [.invalidInput, .notFound, .readOnly, .typeMismatch]

/-- **A command of the store fails for the command line, the key or the value.** -/
theorem kind_of_execute_error {store : Store} {commandLine : CommandLine} {fault : Fault}
    (failed : store.execute commandLine = .error fault) : fault.kind ∈ faultKinds := by
  generalize found : fault.kind = kind
  cases found ▸ isCause_of_execute_error failed <;> simp [faultKinds]

/-! ## Events -/

/-- A request that is granted shows notices. -/
theorem isNotice_of_mem_shows {store : Store} {request : Request} {event : Event}
    (member : event ∈ request.shows store) : event.IsNotice := by
  cases request with
  | get key =>
    obtain ⟨parameter, _, rfl⟩ := Option.map_eq_some_iff.mp (Option.mem_toList.mp member)
    exact ⟨rfl, rfl, rfl, rfl⟩
  | set key value => cases member
  | list =>
    obtain ⟨entry, _, rfl⟩ := List.mem_map.mp member
    exact ⟨rfl, rfl, rfl, rfl⟩
  | reset => cases member

/-- **A run is bracketed**, whatever comes of it. -/
theorem brackets_run (store : Store) (commandLine : CommandLine) :
    (store.run commandLine).Brackets operation := by
  rcases store.execute_cases commandLine with ⟨fault, refused⟩ | ⟨request, _, _, granted⟩
  · unfold run
    rw [refused]
    exact ⟨_, [], _, rfl, ⟨rfl, rfl, rfl⟩, List.forall_mem_nil _, ⟨rfl, rfl, rfl⟩⟩
  · unfold run
    rw [granted]
    exact ⟨_, request.shows store, _, rfl, ⟨rfl, rfl, rfl⟩, fun _ => isNotice_of_mem_shows,
      ⟨rfl, rfl, rfl⟩⟩

/-- **A run names no other operation than its own and no other fault than the one with
which it failed.** -/
theorem of_mem_run_events {store : Store} {commandLine : CommandLine} {event : Event}
    (member : event ∈ (store.run commandLine).events) :
    (event.operation = none ∨ event.operation = some operation) ∧
      (event.detail? Log.FieldName.errorCode = none ∨
        ∃ fault, store.execute commandLine = .error fault ∧
          event.detail? Log.FieldName.errorCode = some (.text fault.kind.code)) := by
  rcases store.execute_cases commandLine with ⟨fault, refused⟩ | ⟨request, _, _, granted⟩
  · unfold run at member
    rw [refused] at member
    simp only [List.mem_cons, List.not_mem_nil, or_false] at member
    rcases member with rfl | rfl
    · exact ⟨.inr rfl, .inl rfl⟩
    · exact ⟨.inr rfl, .inr ⟨fault, refused, rfl⟩⟩
  · unfold run at member
    rw [granted] at member
    rcases List.mem_cons.mp member with rfl | later
    · exact ⟨.inr rfl, .inl rfl⟩
    · rcases List.mem_append.mp later with shown | last
      · have notice := isNotice_of_mem_shows shown
        exact ⟨.inl notice.operation, .inl notice.blameless⟩
      · rw [List.mem_singleton.mp last]
        exact ⟨.inr rfl, .inl rfl⟩

end TiltMenu.Store
