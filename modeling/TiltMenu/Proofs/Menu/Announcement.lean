import TiltMenu.Proofs.Menu.Account

/-!
# What the log tells about what was dispatched

A menu announces every command line that it dispatches by one event, before anything comes of it
(`announcement`). The announcement names what the command line is taken for, which its first word
and the names of the families decide; so it can be told beforehand, and dispatching other command
lines does not change it (`announcement_dispatch`).

No other event of a dispatch of the stock menu is an announcement. The announcements in the log of
a list are therefore those of its command lines, one for each and in order
(`announcements_dispatchAll`): who reads them knows what was dispatched.
-/

set_option autoImplicit false

namespace TiltMenu

open Log (Event)

namespace Menu

/-- The event announces a command line. The hint behind an empty one does not. -/
def Announces (event : Event) : Prop := event.operation = some "dispatch" ∧ event.level ≠ .debug

instance (event : Event) : Decidable (Announces event) :=
  inferInstanceAs (Decidable (_ ∧ _))

/-- The announcements among events, in order. -/
def announcements (events : List Event) : List Event := events.filter fun event => Announces event

theorem announcements_append (first second : List Event) :
    announcements (first ++ second) = announcements first ++ announcements second :=
  List.filter_append ..

variable {σ ν δ κ ρ : Type}

/-- The event by which a menu announces a command line. -/
def announcement (menu : Menu σ ν δ) : CommandLine → Event
  | [] => { menu.dispatched .error "Empty user input" with stage := some Log.Stage.emptyInput }
  | name :: _ =>
    match menu.families.classify name with
    | .store => menu.routedEvent .store name
    | .device => menu.routedEvent .device name
    | .help => menu.helpEvent
    | .exit => menu.exitEvent
    | .unknown => menu.unknownEvent name

/-- A dispatch leaves the announcements of a menu as they are. -/
theorem announcement_dispatch [Executor σ κ] [Validator ν κ] [Validator δ ρ] (menu : Menu σ ν δ)
    (commandLine : CommandLine) :
    (menu.dispatch commandLine).state.announcement = menu.announcement := by
  have way := menu.dispatches commandLine
  generalize menu.dispatch commandLine = outcome at way ⊢
  cases way <;> rfl

/-- What a menu announces a command line by is an announcement. -/
theorem announces_announcement (menu : Menu σ ν δ) (commandLine : CommandLine) :
    Announces (menu.announcement commandLine) := by
  cases commandLine with
  | nil => exact ⟨rfl, nofun⟩
  | cons name arguments =>
    rw [announcement]
    cases menu.families.classify name <;> exact ⟨rfl, nofun⟩

/-- **A dispatch announces its command line first**, whatever the executor and the validators. -/
theorem head?_events_dispatch [Executor σ κ] [Validator ν κ] [Validator δ ρ] (menu : Menu σ ν δ)
    (commandLine : CommandLine) :
    (menu.dispatch commandLine).events.head? = some (menu.announcement commandLine) := by
  have way := menu.dispatches commandLine
  generalize menu.dispatch commandLine = outcome at way ⊢
  cases way with
  | empty => rfl
  | help family => simp [announcement, family]
  | exit family => simp [announcement, family]
  | unknown family => simp [announcement, family]
  | storeRejected family _ _ => simp [announcement, family, inspectionEvents]
  | storeRun family _ _ => simp [announcement, family, inspectionEvents]
  | deviceRejected family _ _ => simp [announcement, family, inspectionEvents]
  | deviceRun family _ _ _ _ => simp [announcement, family, inspectionEvents]

/-! ## What announces nothing -/

/-- An operation of another name is not announced. -/
theorem not_announces_of_brackets {α : Type} {operation : String} {outcome : Outcome α}
    (brackets : outcome.Brackets operation) (other : operation ≠ "dispatch") {event : Event}
    (member : event ∈ outcome.events) : ¬ Announces event := by
  rintro ⟨named, _⟩
  rcases brackets.mem_cases member with opens | notice | closes
  · exact other (Option.some.inj (opens.operation.symm.trans named))
  · rw [notice.operation] at named
    cases named
  · exact other (Option.some.inj (closes.operation.symm.trans named))

/-- A validator that reads command lines announces none. -/
theorem not_announces_of_mem_ofReading {validator : ν} {commandLine : CommandLine}
    {reading : Except Fault κ} {event : Event}
    (member : event ∈ (Verdict.ofReading validator commandLine reading).events) :
    ¬ Announces event := by
  obtain ⟨fault, rfl⟩ := Verdict.eq_rejected_of_mem member
  simp [Announces, rejected]

theorem not_announces_progress (operation stage : String) :
    ¬ Announces (progress operation stage) :=
  fun announces => announces.2 rfl

theorem not_announces_rejectedEvent (menu : Menu σ ν δ) {operation : String}
    (other : operation ≠ "dispatch") : ¬ Announces (menu.rejectedEvent operation) :=
  fun announces => other (Option.some.inj announces.1)

/-- The events of a command line of a family begin with its announcement, and the others are
those of the verdict and of what follows it. -/
theorem announces_first_of_inspection {menu : Menu σ ν δ} {commandLine : CommandLine}
    {family : Family} {operation name : String} {verdict rest : List Event}
    (routed : menu.announcement commandLine = menu.routedEvent family name)
    (judged : ∀ event ∈ verdict, ¬ Announces event)
    (followed : ∀ event ∈ rest, ¬ Announces event) :
    ∃ later, menu.inspectionEvents family operation name verdict ++ rest =
        menu.announcement commandLine :: later ∧ ∀ event ∈ later, ¬ Announces event := by
  refine ⟨progress operation Log.Stage.start :: verdict ++ rest, by rw [routed]; rfl, ?_⟩
  exact List.forall_mem_append.mpr
    ⟨List.forall_mem_cons.mpr ⟨not_announces_progress _ _, judged⟩, followed⟩

end Menu

/-! ## The stock menu -/

namespace StockMenu

open Menu (Announces announcements not_announces_of_brackets not_announces_of_mem_ofReading
  not_announces_progress announces_first_of_inspection)

/-- **A dispatch announces its command line first, and nothing else.** -/
theorem announces_first (menu : StockMenu) (commandLine : CommandLine) :
    ∃ later, (menu.dispatch commandLine).events = menu.announcement commandLine :: later ∧
      ∀ event ∈ later, ¬ Announces event := by
  have way := menu.dispatches commandLine
  generalize menu.dispatch commandLine = outcome at way ⊢
  cases way with
  | empty => exact ⟨_, rfl, List.forall_mem_singleton.mpr fun announces => announces.2 rfl⟩
  | help family => exact ⟨[], by simp [Menu.announcement, family], List.forall_mem_nil _⟩
  | exit family => exact ⟨[], by simp [Menu.announcement, family], List.forall_mem_nil _⟩
  | unknown family => exact ⟨[], by simp [Menu.announcement, family], List.forall_mem_nil _⟩
  | storeRejected family inspected _ =>
    subst inspected
    refine announces_first_of_inspection (by simp [Menu.announcement, family])
      (fun _ => not_announces_of_mem_ofReading) ?_
    exact List.forall_mem_singleton.mpr (menu.not_announces_rejectedEvent (by decide))
  | @storeRun name arguments _ _ family inspected _ =>
    subst inspected
    refine announces_first_of_inspection (by simp [Menu.announcement, family])
      (fun _ => not_announces_of_mem_ofReading) ?_
    have ran := menu.store.brackets_run (name :: arguments)
    exact List.forall_mem_cons.mpr ⟨not_announces_progress _ _,
      fun _ => not_announces_of_brackets ran (by decide)⟩
  | deviceRejected family inspected _ =>
    subst inspected
    refine announces_first_of_inspection (by simp [Menu.announcement, family])
      (fun _ => not_announces_of_mem_ofReading) ?_
    exact List.forall_mem_singleton.mpr (menu.not_announces_rejectedEvent (by decide))
  | @deviceRun name arguments _ command _ _ family inspected _ enqueued executed =>
    subst inspected enqueued executed
    refine announces_first_of_inspection (by simp [Menu.announcement, family])
      (fun _ => not_announces_of_mem_ofReading) ?_
    have ran := (menu.executor.enqueue [command]).brackets_execute
    exact List.forall_mem_cons.mpr ⟨not_announces_progress _ _,
      fun _ => not_announces_of_brackets ran (by decide)⟩

theorem announcements_dispatch (menu : StockMenu) (commandLine : CommandLine) :
    announcements (menu.dispatch commandLine).events = [menu.announcement commandLine] := by
  obtain ⟨later, events, quiet⟩ := menu.announces_first commandLine
  have first := menu.announces_announcement commandLine
  rw [events, announcements, List.filter_cons_of_pos (by simpa using first),
    List.filter_eq_nil_iff.mpr (by simpa using quiet)]

/-- **The announcements of a list are those of its command lines, one for each and in order.** -/
theorem announcements_dispatchAll (menu : StockMenu) (commandLines : List CommandLine) :
    announcements (menu.dispatchAll commandLines).events = commandLines.map menu.announcement := by
  induction commandLines generalizing menu with
  | nil => rfl
  | cons first rest ih =>
    have whole : (menu.dispatchAll (first :: rest)).events =
        (menu.dispatch first).events ++ ((menu.dispatch first).state.dispatchAll rest).events := rfl
    rw [whole, Menu.announcements_append, announcements_dispatch, ih, Menu.announcement_dispatch]
    rfl

end StockMenu

end TiltMenu
