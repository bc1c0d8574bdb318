import TiltMenu.Program.Host
import TiltMenu.Proofs.Input.Lines
import TiltMenu.Proofs.Menu.CutBatch

/-!
# What the program does on a host

A host is modelled by the surroundings that the program finds there and by what it has been shown
(`Scene`). On it the program comes to an end, and what it has shown is the run of its invocation:
it ends with the exit code of the run, has printed what the run prints, and its log has what the
profile reports of the events of the run (`perform_shows_run`).

The run of a session asks a source for one command line after another, and each request may take
many lines. The program takes one line at a time. A line that does not decide the request leaves
the session as it is, with what is logged about the line before the rest
(`runSession_of_searching`). So the two are the same, by induction on what is left to read
(`run_converse`).
-/

set_option autoImplicit false

namespace TiltMenu

open Input (LineSource PromptSink Source)
open Input.LineSource (Attempt)
open Log (Event Profile)

/-! ## Sessions line by line -/

namespace Menu

variable {σ ν δ κ ρ : Type} [Executor σ κ] [Validator ν κ] [Validator δ ρ]
  {menu : Menu σ ν δ} {source : LineSource}

/-- A line that does not decide a request leaves the session to the lines behind it. -/
theorem runSession_of_searching (searching : source.attempt.isFinal = false) :
    menu.runSession source =
      let later := menu.runSession source.advance
      ⟨later.outcome.logFirst source.attempt.events, later.source⟩ := by
  have asked : Source.next source =
      { Source.next source.advance with
        events := source.attempt.events ++ (Source.next source.advance).events } :=
    LineSource.next_of_not_final searching
  cases found : (Source.next source.advance).commandLine with
  | none =>
    rw [runSession_of_exhausted (by rw [asked]; exact found), runSession_of_exhausted found, asked]
    simp [Outcome.logFirst]
  | some commandLine =>
    have handed : (Source.next source).commandLine = some commandLine := by rw [asked]; exact found
    cases succeeded : (menu.dispatch commandLine).succeeded with
    | true =>
      rw [runSession_of_succeeded handed succeeded, runSession_of_succeeded found succeeded, asked]
      simp [Outcome.logFirst]
    | false =>
      rw [runSession_of_failed handed succeeded, runSession_of_failed found succeeded, asked]
      simp [Outcome.logFirst]

/-- **A session goes line by line.** Behind a line it goes on unless the menu failed or nothing
more is read. -/
theorem runSession_eq_answer (menu : Menu σ ν δ) (source : LineSource) :
    menu.runSession source =
      let outcome := menu.answer source.attempt
      if outcome.succeeded && !source.attempt.endsInput then
        let later := outcome.state.runSession source.advance
        ⟨later.outcome.logFirst (source.attempt.events ++ outcome.events), later.source⟩
      else ⟨outcome.logFirst source.attempt.events, source.advance⟩ := by
  have final (tried : source.attempt.isFinal = true) :
      Source.next source = ⟨source.attempt.commandLine?, source.advance, source.attempt.events⟩ :=
    LineSource.next_of_final tried
  cases tried : source.attempt with
  | exhausted | failed =>
    rw [tried] at final
    rw [runSession_of_exhausted (by rw [final rfl]; rfl), final rfl]
    simp [answer, Outcome.logFirst, Attempt.endsInput]
  | command commandLine =>
    rw [tried] at final
    have handed : (Source.next source).commandLine = some commandLine := by rw [final rfl]; rfl
    cases succeeded : (menu.dispatch commandLine).succeeded with
    | true =>
      rw [runSession_of_succeeded handed succeeded, final rfl]
      simp [answer, Outcome.logFirst, Attempt.endsInput, succeeded]
    | false =>
      rw [runSession_of_failed handed succeeded, final rfl]
      simp [answer, Outcome.logFirst, Attempt.endsInput, succeeded]
  | skipped | undecodable | unsplittable =>
    rw [runSession_of_searching (by rw [tried]; rfl), tried]
    simp [answer, Outcome.idle, Outcome.logFirst, Attempt.endsInput]

end Menu

namespace Program

/-! ## A host that keeps what it is shown -/

/-- The surroundings of the program, with what is left of standard input, and what the program
has shown there. -/
structure Scene extends Surroundings where
  output : PromptSink := {}
  log : List String := []

/-- A scene before anything has happened. -/
def Surroundings.scene (surroundings : Surroundings) : Scene := { surroundings with }

@[simp]
theorem Surroundings.scene_file (surroundings : Surroundings) :
    surroundings.scene.file = surroundings.file :=
  rfl

instance : Nonempty Scene :=
  ⟨{ file := fun _ => .unreadable .missing, input := [] }⟩

/-- What is done in a scene. It leaves nothing if it would never end. -/
abbrev Played : Type → Type := StateT Scene Option

instance : Host Played where
  readFile path := fun scene => some (scene.file path, scene)
  takeLine := fun scene =>
    let taken := Input.takeLine [] scene.input
    some (taken.1, { scene with input := taken.2 })
  isTerminal := fun scene => some (scene.terminal, scene)
  showPrompt prompt := fun scene => some ((), { scene with output := scene.output.write prompt })
  print text := fun scene => some ((), { scene with output := scene.output.write text })
  report line := fun scene => some ((), { scene with log := scene.log ++ [line] })

variable {scene : Scene}

@[simp]
theorem run_takeLine :
    (Host.takeLine : Played Input.RawLine).run scene =
      some ((Input.takeLine [] scene.input).1,
        { scene with input := (Input.takeLine [] scene.input).2 }) :=
  rfl

@[simp]
theorem run_isTerminal :
    (Host.isTerminal : Played Bool).run scene = some (scene.terminal, scene) :=
  rfl

@[simp]
theorem run_showPrompt (prompt : String) :
    (Host.showPrompt prompt : Played Unit).run scene =
      some ((), { scene with output := scene.output.write prompt }) :=
  rfl

@[simp]
theorem run_print (text : String) :
    (Host.print text : Played Unit).run scene =
      some ((), { scene with output := scene.output.write text }) :=
  rfl

@[simp]
theorem run_report (line : String) :
    (Host.report line : Played Unit).run scene =
      some ((), { scene with log := scene.log ++ [line] }) :=
  rfl

@[simp]
theorem run_forM_report (lines : List String) :
    (forM lines Host.report : Played Unit).run scene =
      some ((), { scene with log := scene.log ++ lines }) := by
  induction lines generalizing scene with
  | nil => simp
  | cons first rest ih => simp [ih]

@[simp]
theorem run_showEvents (profile : Profile) (events : List Event) :
    (showEvents profile events : Played Unit).run scene =
      some ((), { scene with log := scene.log ++ profile.lines events }) :=
  run_forM_report _

/-! ## Sessions -/

/-- The source of the lines that are left in a scene. -/
def Scene.source (scene : Scene) (prompt : Option String) : LineSource where
  chunks := scene.input
  prompt := prompt
  sink := scene.output

/-- The scene with what a source has left, and with more lines in the log. -/
def Scene.after (scene : Scene) (source : LineSource) (lines : List String) : Scene :=
  { scene with input := source.chunks, output := source.sink, log := scene.log ++ lines }

theorem Scene.after_after (scene : Scene) (first second : LineSource) (lines more : List String) :
    (scene.after first lines).after second more = scene.after second (lines ++ more) := by
  simp [after]

/-- Behind a line the source goes on with what is left in the scene. -/
theorem Scene.source_after_advance (scene : Scene) (prompt : Option String)
    (lines : List String) :
    (scene.after (scene.source prompt).advance lines).source prompt =
      (scene.source prompt).advance := by
  cases prompt <;> rfl

/-- The program tries a line as a source does. -/
theorem run_tryLine (profile : Profile) (prompt : Option String) (scene : Scene) :
    let source := scene.source prompt
    (tryLine profile prompt : Played Attempt).run scene =
      some (source.attempt,
        scene.after source.advance (profile.lines source.attempt.events)) := by
  cases prompt with
  | none =>
    simp only [tryLine, StateT.run_bind, run_takeLine, run_showEvents, StateT.run_pure]
    rfl
  | some prompt =>
    simp only [tryLine, StateT.run_bind, run_showPrompt, run_takeLine, run_showEvents,
      StateT.run_pure]
    rfl

section Session

variable {σ ν δ κ ρ : Type} [Executor σ κ] [Validator ν κ] [Validator δ ρ]

/-- A turn is what the menu does about one line. -/
theorem run_takeTurn (profile : Profile) (prompt : Option String) (menu : Menu σ ν δ)
    (scene : Scene) :
    let source := scene.source prompt
    let outcome := menu.answer source.attempt
    (takeTurn profile prompt menu : Played (Menu σ ν δ ⊕ Bool)).run scene =
      some (if outcome.succeeded && !source.attempt.endsInput then .inl outcome.state
          else .inr outcome.succeeded,
        scene.after source.advance (profile.lines (source.attempt.events ++ outcome.events))) := by
  rw [takeTurn, StateT.run_bind, run_tryLine]
  simp [Scene.after, Profile.lines_append]

/-- **A session that is led turn by turn is the session over the lines that are left.** -/
theorem run_converse (profile : Profile) (prompt : Option String) (menu : Menu σ ν δ)
    (scene : Scene) :
    let session := menu.runSession (scene.source prompt)
    (converse profile prompt menu : Played Bool).run scene =
      some (session.outcome.succeeded,
        scene.after session.source (profile.lines session.outcome.events)) := by
  -- the induction is on what is left to read, of which each turn that is not the last takes some
  induction left : Input.weight scene.input using Nat.strongRecOn generalizing menu scene with
  | ind _ ih =>
    have turn := run_takeTurn profile prompt menu scene
    have behind := menu.runSession_eq_answer (scene.source prompt)
    rw [converse, repeatM_eq_of_monadTail, StateT.run_bind, turn, behind]
    generalize tried : (scene.source prompt).attempt = attempt
    cases going : (menu.answer attempt).succeeded && !attempt.endsInput with
    | true =>
      have unread : (scene.source prompt).attempt ≠ .exhausted := by
        rw [tried]
        rintro rfl
        simp [Attempt.endsInput] at going
      have shorter := LineSource.weight_advance_lt (scene.source prompt) unread
      have later := ih _ (left ▸ shorter) (menu.answer attempt).state
        (scene.after (scene.source prompt).advance
          (profile.lines (attempt.events ++ (menu.answer attempt).events))) rfl
      rw [Scene.source_after_advance] at later
      simp only [Scene.after_after, ← Profile.lines_append] at later
      simp only [going, if_true]
      exact later
    | false =>
      simp only [going, Bool.false_eq_true, if_false]
      rfl

end Session

/-! ## Invocations -/

theorem run_mapM_readFile (path : Option String) (scene : Scene) :
    (path.mapM Host.readFile : Played (Option Input.File)).run scene =
      some (path.map scene.file, scene) := by
  cases path <;> rfl

/-- A run that was not prevented leaves only what the profile reports of its events. -/
theorem diagnostics_of_finished (invocation : Invocation) {ending : Ending}
    (finished : ending.failure = none) :
    invocation.diagnostics ending = invocation.profile.lines ending.events := by
  rw [Invocation.diagnostics, finished]
  exact List.append_nil _

/-- What is concluded is shown as a whole. -/
theorem conclude_shows (invocation : Invocation) (ending : Ending) (surroundings : Surroundings) :
    ∃ scene,
      (invocation.conclude ending : Played UInt8).run surroundings.scene =
          some (ending.code, scene) ∧
        scene.output.written = ending.output ∧ scene.log = invocation.diagnostics ending := by
  simp only [Invocation.conclude, StateT.run_bind, run_forM_report, run_print, StateT.run_pure]
  exact ⟨_, rfl, String.empty_append, List.nil_append _⟩

/-- **What the program does is the run of its invocation.** It comes to an end with the exit code
of the run, has printed what the run prints, and has written to the log, line by line, what the
profile reports of the events of the run and the fault that prevented it. -/
theorem perform_shows_run (invocation : Invocation) (surroundings : Surroundings) :
    let ending := invocation.run surroundings
    ∃ scene,
      (invocation.perform : Played UInt8).run surroundings.scene = some (ending.code, scene) ∧
        scene.output.written = ending.output ∧ scene.log = invocation.diagnostics ending := by
  obtain ⟨configPath, profile, task⟩ := invocation
  rw [Invocation.perform, StateT.run_bind, run_mapM_readFile, Option.bind_eq_bind,
    Option.bind_some]
  cases task with
  | batch script dumpStore =>
    dsimp only
    rw [StateT.run_bind, run_mapM_readFile]
    exact conclude_shows _ _ surroundings
  | interactive prompt =>
    simp only [Surroundings.scene_file]
    cases loaded : loadConfig (configPath.map surroundings.file) with
    | error fault =>
      have prevented : Invocation.run ⟨configPath, profile, .interactive prompt⟩ surroundings =
          .prevented fault [] := by
        simp only [Invocation.run, runInteractive, loaded]
      rw [prevented]
      exact conclude_shows _ _ surroundings
    | ok config =>
      let session := (configuredMenu "interactive" config).runSession
        (surroundings.scene.source (if surroundings.terminal then some prompt else none))
      have finished : Invocation.run ⟨configPath, profile, .interactive prompt⟩ surroundings =
          { code := 0
            output := session.source.sink.written
            events := [configured config] ++ session.outcome.events
              ++ [sessionFinished session.outcome.succeeded] } := by
        simp only [Invocation.run, runInteractive, loaded]
        rfl
      rw [finished, diagnostics_of_finished _ rfl, Profile.lines_append, Profile.lines_append]
      simp only [StateT.run_bind, run_showEvents, run_isTerminal, run_converse,
        Option.bind_eq_bind, Option.bind_some]
      exact ⟨_, rfl, rfl, rfl⟩

end Program

end TiltMenu
