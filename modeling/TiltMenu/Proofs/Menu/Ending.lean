import TiltMenu.Proofs.Device.Reading
import TiltMenu.Proofs.Menu.TiltSafety
import TiltMenu.Proofs.Store.Limits

/-!
# What ends a session of the stock menu

A session ends at the first command line that does not succeed. For the menu as it is
delivered these command lines are known: the one without words, `exit`, a `setdb` that breaks
a limit of the tilt, and, as long as the device is not calibrated, a move and the question for
the tilt (`Stops`). Whatever else is dispatched, accepted or turned down, the session goes on
(`dispatch_fails_iff`).

Three facts about the states between command lines carry this: the families are those that
were delivered, the store follows its schema, and nothing is queued (`InService`). Every
dispatch keeps them.
-/

set_option autoImplicit false

namespace TiltMenu

/-- Only one name is that of the exit action. -/
theorem Families.eq_exit_of_classify {families : Families} {name : String}
    (family : families.classify name = .exit) : name = Action.exit := by
  unfold classify at family
  grind

namespace StockMenu

open Device (Command Controller Procedure)
open Menu (Dispatches Operation)
open Store (Verb)

/-! ## Menus in service -/

/-- The menu with the delivered names. -/
def delivered (name : String) : StockMenu := (new name .defaults).applyConfig Config.defaults

/-- The menu is as delivered, up to what dispatching does to it. -/
structure InService (menu : StockMenu) : Prop where
  families : menu.families =
    { store := .ofList Config.defaults.storeCommands
      device := .ofList Config.defaults.deviceCommands }
  follows : menu.store.FollowsSchema
  idle : menu.executor.pending = []

theorem inService_delivered (name : String) : (delivered name).InService where
  families := rfl
  follows := Store.followsSchema_defaults
  idle := rfl

namespace InService

variable {menu : StockMenu}

/-- A dispatch keeps the menu in service. -/
theorem dispatch (service : menu.InService) (commandLine : CommandLine) :
    InService (menu.dispatch commandLine).state where
  families := (menu.families_dispatch commandLine).trans service.families
  follows :=
    (Menu.lasting_of_run Store.followsSchema_run).dispatch menu commandLine service.follows
  idle := lasting_idle.dispatch menu commandLine service.idle

theorem dispatches (service : menu.InService) (commandLines : List CommandLine) :
    InService (menu.history (commandLines.map .dispatch)) := by
  induction commandLines generalizing menu with
  | nil => exact service
  | cons first rest ih => exact ih (service.dispatch first)

/-- **Operations that dispatch command lines keep the menu in service.** -/
theorem history (service : menu.InService) (operations : List (Operation Controller))
    (dispatching : ∀ operation ∈ operations, operation.IsDispatching) :
    InService (menu.history operations) := by
  obtain ⟨commandLines, reached⟩ := menu.exists_history_of_dispatching operations dispatching
  rw [reached]
  exact service.dispatches commandLines

/-! ### Families in service -/

/-- Every command of the store belongs to the store family. -/
theorem classify_verb (service : menu.InService) (verb : Verb) :
    menu.families.classify verb.name = .store := by
  rw [service.families]
  cases verb <;> decide

/-- Every procedure belongs to the device family. -/
theorem classify_procedure (service : menu.InService) (procedure : Procedure) :
    menu.families.classify procedure.name = .device := by
  rw [service.families]
  cases procedure <;> decide

/-- No family hides the exit action. -/
theorem classify_exit (service : menu.InService) :
    menu.families.classify Action.exit = .exit := by
  rw [service.families]
  decide

end InService

/-! ## Command lines that end a session -/

/-- The command line is accepted as a command that the device refuses, since it is not
calibrated. -/
def RefusesUncalibrated (menu : StockMenu) (commandLine : CommandLine) : Prop :=
  menu.executor.device.calibrated = false ∧
    ∃ command, (menu.deviceVerdict commandLine).accepted = some command ∧
      (command.procedure = .setTilt ∨ command.procedure = .getTilt)

/-- The command lines that end a session. -/
inductive Stops (menu : StockMenu) : CommandLine → Prop where
  | wordless : Stops menu []
  | exit (arguments : List String) : Stops menu (Action.exit :: arguments)
  | limit {key raw : String} {value : Int64} (digits : Text.readInt64 raw.toList = .ok value)
      (breaks : menu.store.BreaksLimits key value) : Stops menu [Verb.set.name, key, raw]
  | tiltUnknown (uncalibrated : menu.executor.device.calibrated = false) :
      Stops menu [Procedure.getTilt.name]
  | moveUncalibrated {arguments : List String} {command : Command}
      (uncalibrated : menu.executor.device.calibrated = false)
      (accepted :
        (menu.deviceVerdict (Procedure.setTilt.name :: arguments)).accepted = some command) :
      Stops menu (Procedure.setTilt.name :: arguments)

theorem accepted_iff_parse (menu : StockMenu) (commandLine : CommandLine) (command : Command) :
    (menu.deviceVerdict commandLine).accepted = some command ↔
      Command.parse menu.store commandLine = .ok command :=
  Verdict.accepted_ofReading_iff _ commandLine _ command

/-- What ends a session among the command lines of a family. -/
def StopsBy (menu : StockMenu) (commandLine : CommandLine) : Family → Prop
  | .exit => True
  | .store => menu.store.WritesBrokenLimit commandLine
  | .device => menu.RefusesUncalibrated commandLine
  | .help | .unknown => False

/-- A command that is refused is a move or the question for the tilt. -/
theorem stops_of_refusesUncalibrated {menu : StockMenu} {commandLine : CommandLine}
    (refuses : menu.RefusesUncalibrated commandLine) : menu.Stops commandLine := by
  obtain ⟨uncalibrated, command, accepted, moves⟩ := refuses
  have read := (menu.accepted_iff_parse commandLine command).mp accepted
  obtain ⟨⟨arguments, begins⟩, single⟩ := Command.commandLine_of_parse read
  rcases moves with moved | asked
  · subst begins
    rw [Command.name, moved] at accepted ⊢
    exact .moveUncalibrated uncalibrated accepted
  · have still : command.procedure ≠ .setTilt := by
      rw [asked]
      decide
    rw [single still, Command.name, asked]
    exact .tiltUnknown uncalibrated

/-- **What ends a session, family by family.** -/
theorem InService.stops_cons_iff {menu : StockMenu} (service : menu.InService) (name : String)
    (arguments : List String) :
    menu.Stops (name :: arguments) ↔
      menu.StopsBy (name :: arguments) (menu.families.classify name) := by
  constructor
  · intro stops
    cases stops with
    | exit =>
      rw [service.classify_exit]
      exact trivial
    | limit digits breaks =>
      rw [service.classify_verb]
      exact ⟨_, _, _, rfl, digits, breaks⟩
    | tiltUnknown uncalibrated =>
      rw [service.classify_procedure]
      have read : Command.parse menu.store [Procedure.getTilt.name] = .ok .getTilt := rfl
      exact ⟨uncalibrated, _, (menu.accepted_iff_parse _ _).mpr read, .inr rfl⟩
    | moveUncalibrated uncalibrated accepted =>
      rw [service.classify_procedure]
      have read := (menu.accepted_iff_parse _ _).mp accepted
      obtain ⟨⟨_, begins⟩, _⟩ := Command.commandLine_of_parse read
      have same : Procedure.setTilt.name = Command.name _ := (List.cons.inj begins).1
      exact ⟨uncalibrated, _, accepted, .inl (Procedure.name_injective same).symm⟩
  · intro stops
    cases family : menu.families.classify name with
    | store =>
      rw [family] at stops
      obtain ⟨key, raw, value, same, digits, breaks⟩ := stops
      rw [same]
      exact .limit digits breaks
    | device =>
      rw [family] at stops
      exact stops_of_refusesUncalibrated stops
    | exit =>
      rw [Families.eq_exit_of_classify family]
      exact .exit arguments
    | help =>
      rw [family] at stops
      exact absurd stops id
    | unknown =>
      rw [family] at stops
      exact absurd stops id

/-- **A command line fails in service exactly if it ends the session.** -/
theorem InService.dispatch_failed_iff {menu : StockMenu} (service : menu.InService)
    (commandLine : CommandLine) :
    (menu.dispatch commandLine).succeeded = false ↔ menu.Stops commandLine := by
  have way := menu.dispatches commandLine
  generalize menu.dispatch commandLine = outcome at way ⊢
  have succeeds : ¬true = false := fun same => Bool.noConfusion same
  -- With words, the family decides both what is dispatched and what ends the session.
  cases way with
  | empty => exact iff_of_true rfl .wordless
  | help family =>
    rw [service.stops_cons_iff, family]
    exact iff_of_false succeeds id
  | exit family =>
    rw [service.stops_cons_iff, family]
    exact iff_of_true rfl trivial
  | unknown family =>
    rw [service.stops_cons_iff, family]
    exact iff_of_false succeeds id
  | storeRejected family inspected rejected =>
    rw [service.stops_cons_iff, family]
    subst inspected
    -- A broken limit is read as a request, so its command line would not be turned down.
    refine iff_of_false succeeds fun broken => ?_
    obtain ⟨request, read, _⟩ := (service.follows.exists_inadmissible_iff _).mpr broken
    have accepted := (Store.accepted_iff_parse menu.storeValidator _ _ _).mpr read
    cases rejected.symm.trans accepted
  | storeRun family inspected accepted =>
    rw [service.stops_cons_iff, family]
    subst inspected
    have read := (Store.accepted_iff_parse menu.storeValidator _ _ _).mp accepted
    exact service.follows.run_failed_iff read
  | deviceRejected family inspected rejected =>
    rw [service.stops_cons_iff, family]
    subst inspected
    refine iff_of_false succeeds ?_
    rintro ⟨_, command, accepted, _⟩
    cases rejected.symm.trans accepted
  | @deviceRun name arguments _ command _ _ family inspected accepted enqueued executed =>
    rw [service.stops_cons_iff, family]
    subst inspected enqueued executed
    show (menu.executor.enqueue [command]).execute.succeeded = false ↔ _
    rw [Controller.execute_enqueue_failed_iff service.idle]
    refine and_congr_right fun _ => ⟨fun moves => ⟨command, accepted, moves⟩, ?_⟩
    rintro ⟨other, same, moves⟩
    cases accepted.symm.trans same
    exact moves

/-! ## Histories -/

/-- **What ends a session of the stock menu.** After any command lines, batches and sessions
on the menu as it is delivered, a command line fails exactly if it has no words, if it is
`exit`, if it is a `setdb` that breaks a limit, or if the device is not calibrated and the
command line asks for the tilt or is accepted as a move. -/
theorem dispatch_fails_iff (name : String) (operations : List (Operation Controller))
    (dispatching : ∀ operation ∈ operations, operation.IsDispatching)
    (commandLine : CommandLine) :
    let menu : StockMenu := (delivered name).history operations
    (menu.dispatch commandLine).succeeded = false ↔ menu.Stops commandLine :=
  ((inService_delivered name).history operations dispatching).dispatch_failed_iff commandLine

/-- A menu whose window was narrowed and whose device was calibrated and then reset. A lower
end above the window, the question for the tilt and a move into the window end its session.
A lower end at the upper one and a move out of the window do not. -/
theorem dispatch_fails_iff_after_reset :
    let operations : List (Operation Controller) :=
      [.batch [["setdb", "max_tilt", "50"], ["Calibrate"]], .dispatch ["ResetSoftware"]]
    let menu : StockMenu := (delivered "menu").history operations
    (menu.dispatch ["setdb", "min_tilt", "51"]).succeeded = false ∧
      (menu.dispatch ["GetTilt"]).succeeded = false ∧
      (menu.dispatch ["SetTilt", "50"]).succeeded = false ∧
      ¬ Stops menu ["setdb", "min_tilt", "50"] ∧ ¬ Stops menu ["SetTilt", "51"] := by
  intro operations menu
  have dispatching : ∀ operation ∈ operations, operation.IsDispatching := by
    simp [operations, Operation.IsDispatching]
  have ends := dispatch_fails_iff "menu" operations dispatching
  refine ⟨(ends _).mpr ?_, (ends _).mpr ?_, (ends _).mpr ?_, ?_, ?_⟩
  · exact .limit rfl (.inl ⟨rfl, 50, rfl, by decide⟩)
  · exact .tiltUnknown rfl
  · exact .moveUncalibrated rfl rfl
  · intro stops
    cases (ends _).mpr stops
  · intro stops
    cases (ends _).mpr stops

end StockMenu

end TiltMenu
