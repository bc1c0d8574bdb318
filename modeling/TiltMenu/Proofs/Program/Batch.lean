import TiltMenu.Proofs.Input.Wordless
import TiltMenu.Proofs.Menu.Announcement
import TiltMenu.Proofs.Program.Performance

/-!
# Batches from end to end

A batch needs a configuration and the text of a script (`GivesConfig`, `GivesScript`). Without one
of them it is prevented: it dispatches nothing, not even what the configuration brings, prints
nothing and ends with code 2 (`Ending.Prevented`).

With both of them it dispatches the command lines of the configuration and those of the script,
each one of them, on a menu as it is delivered with the names of the configuration
(`Ending.Dispatched`). The log announces each command line, the code tells whether all of them
succeeded, and the store is printed if that was asked for, whatever the code is.

The profile says which of the events the log has (`mem_reported_iff`). It changes nothing else of
what the program does.
-/

set_option autoImplicit false

namespace TiltMenu.Program

open Input (File)
open Log (Event Profile)
open Menu (announcements)

/-! ## What a batch needs -/

/-- The file, if there is one, gives the configuration: it holds text that is read as it. Without
a file it is the default. -/
inductive GivesConfig : Option File → Config → Prop where
  | default : GivesConfig none Config.defaults
  | file {bytes : List UInt8} {text : String} {config : Config}
      (decoded : Text.decode? bytes = some text) (read : Config.parse text = .ok config) :
      GivesConfig (some (.content bytes)) config

/-- The file, if there is one, gives the text of the script. Without a file there is none. -/
inductive GivesScript : Option File → String → Prop where
  | none : GivesScript none ""
  | file {bytes : List UInt8} {text : String} (decoded : Text.decode? bytes = some text) :
      GivesScript (some (.content bytes)) text

/-- A text is read from a file exactly if its bytes are the text. -/
theorem readText_eq_ok_iff (file : File) (operation text : String) :
    file.readText operation = .ok text ↔
      ∃ bytes, file = .content bytes ∧ Text.decode? bytes = some text := by
  cases file with
  | unreadable obstacle => simp [File.readText]
  | content bytes =>
    cases decoded : Text.decode? bytes <;> simp [File.readText, decoded]

theorem load_eq_ok_iff (file : File) (config : Config) :
    Config.load file = .ok config ↔
      ∃ text, file.readText "load_config" = .ok text ∧ Config.parse text = .ok config := by
  unfold Config.load
  cases read : file.readText "load_config" with
  | error fault => exact iff_of_false nofun fun ⟨_, same, _⟩ => nomatch same
  | ok text =>
    constructor
    · exact fun parsed => ⟨text, rfl, parsed⟩
    · rintro ⟨_, ⟨⟩, parsed⟩
      exact parsed

/-- **A configuration is loaded exactly if the file gives it.** -/
theorem loadConfig_eq_ok_iff (file : Option File) (config : Config) :
    loadConfig file = .ok config ↔ GivesConfig file config := by
  constructor
  · intro loaded
    cases file with
    | none =>
      cases loaded
      exact .default
    | some file =>
      obtain ⟨text, read, parsed⟩ := (load_eq_ok_iff file config).mp loaded
      obtain ⟨bytes, rfl, decoded⟩ := (readText_eq_ok_iff file _ text).mp read
      exact .file decoded parsed
  · intro gives
    cases gives with
    | default => rfl
    | file decoded parsed =>
      exact (load_eq_ok_iff _ config).mpr
        ⟨_, (readText_eq_ok_iff _ _ _).mpr ⟨_, rfl, decoded⟩, parsed⟩

/-- **A script is loaded exactly if the file gives its text.** -/
theorem loadScript_eq_ok_iff (file : Option File) (script : String) :
    loadScript file = .ok script ↔ GivesScript file script := by
  constructor
  · intro loaded
    cases file with
    | none =>
      cases loaded
      exact .none
    | some file =>
      obtain ⟨bytes, rfl, decoded⟩ := (readText_eq_ok_iff file _ script).mp loaded
      exact .file decoded
  · intro gives
    cases gives with
    | none => rfl
    | file decoded => exact (readText_eq_ok_iff _ _ script).mpr ⟨_, rfl, decoded⟩

/-! ## How a batch ends -/

/-- The run was prevented. It dispatched nothing and printed nothing. -/
structure Ending.Prevented (ending : Ending) : Prop where
  code : ending.code = 2
  output : ending.output = ""
  failure : ending.failure.isSome = true
  idle : announcements ending.events = []

/-- The run dispatched every one of the command lines on the menu, and nothing else. -/
structure Ending.Dispatched (menu : StockMenu) (commandLines : List CommandLine)
    (dumpStore : Bool) (ending : Ending) : Prop where
  failure : ending.failure = none
  /-- The log announces the command lines in order. -/
  announced : announcements ending.events = commandLines.map menu.announcement
  /-- What comes of them is in the log together. -/
  logged : (menu.turns commandLines).flatMap (·.events) <:+: ending.events
  succeeds_iff : ending.code = 0 ↔
    ∀ place < commandLines.length, menu.contribution commandLines place = some true
  fails_iff : ending.code = 1 ↔ ∃ place, menu.contribution commandLines place = some false
  /-- The store that is left is printed only if that was asked for. -/
  output : ending.output =
    if dumpStore then (menu.dispatchAll commandLines).state.store.dump ++ "\n" else ""

/-- The menu of a batch: as it is delivered, with the names of a configuration. -/
def deliveredMenu (config : Config) : StockMenu where
  name := "batch"
  store := Store.defaults
  executor := { pending := [], executed := [], device := {} }
  deviceValidator := {}
  storeValidator := {}
  families :=
    { store := .ofList config.storeCommands
      device := .ofList config.deviceCommands }

theorem configuredMenu_batch (config : Config) :
    configuredMenu "batch" config = deliveredMenu config :=
  rfl

theorem announcements_warnings (script : String) :
    announcements (Script.warnings script) = [] := by
  refine List.filter_eq_nil_iff.mpr fun event member => ?_
  rw [Script.warnings_eq] at member
  obtain ⟨number, _, rfl⟩ := List.mem_map.mp member
  simp [Menu.Announces, Script.unsplittable]

/-- A batch announces its command lines between the events that begin and end it. -/
theorem announcements_runBatch (menu : StockMenu) (commandLines : List CommandLine) :
    announcements (menu.runBatch commandLines).events = commandLines.map menu.announcement := by
  have whole : (menu.runBatch commandLines).events =
      [menu.batchStarted commandLines.length] ++ (menu.dispatchAll commandLines).events
        ++ [menu.batchFinished (menu.dispatchAll commandLines).succeeded] := rfl
  have opening : announcements [menu.batchStarted commandLines.length] = [] := rfl
  have closing :
      announcements [menu.batchFinished (menu.dispatchAll commandLines).succeeded] = [] := rfl
  rw [whole, Menu.announcements_append, Menu.announcements_append, opening, closing,
    List.nil_append, List.append_nil, menu.announcements_dispatchAll]

/-- **Without a configuration or a script a batch is prevented.** -/
theorem prevented_runBatch {configFile scriptFile : Option File}
    (lacking : (¬∃ config, GivesConfig configFile config) ∨
      ¬∃ script, GivesScript scriptFile script) (dumpStore : Bool) :
    (runBatch configFile scriptFile dumpStore).Prevented := by
  unfold runBatch
  cases loaded : loadConfig configFile with
  | error fault => exact ⟨rfl, rfl, rfl, rfl⟩
  | ok config =>
    cases read : loadScript scriptFile with
    | error fault => exact ⟨rfl, rfl, rfl, rfl⟩
    | ok script =>
      rcases lacking with noConfig | noScript
      · exact absurd ⟨config, (loadConfig_eq_ok_iff _ _).mp loaded⟩ noConfig
      · exact absurd ⟨script, (loadScript_eq_ok_iff _ _).mp read⟩ noScript

/-- **With both of them a batch dispatches all its command lines.** -/
theorem dispatched_runBatch {configFile scriptFile : Option File} {config : Config}
    {script : String} (gives : GivesConfig configFile config)
    (writes : GivesScript scriptFile script) (dumpStore : Bool) :
    (runBatch configFile scriptFile dumpStore).Dispatched (deliveredMenu config)
      (config.predefined ++ Script.commands script) dumpStore := by
  rw [runBatch, (loadConfig_eq_ok_iff _ _).mpr gives, (loadScript_eq_ok_iff _ _).mpr writes]
  let menu := deliveredMenu config
  let commandLines := config.predefined ++ Script.commands script
  refine ⟨rfl, ?announced, ?logged, ?succeeds, ?fails, rfl⟩
  case announced =>
    -- neither the menu that has its names nor a warning about the script is an announcement
    show announcements ([configured config] ++ Script.warnings script
      ++ (menu.runBatch commandLines).events) = _
    rw [Menu.announcements_append, Menu.announcements_append, announcements_warnings,
      announcements_runBatch]
    rfl
  case logged =>
    show (menu.turns commandLines).flatMap (·.events) <:+: _
    rw [← menu.events_dispatchAll]
    refine ⟨configured config :: Script.warnings script ++ [menu.batchStarted commandLines.length],
      [menu.batchFinished (menu.dispatchAll commandLines).succeeded], ?_⟩
    simp [Menu.runBatch, menu, commandLines, configuredMenu_batch, batchCommands]
  case succeeds =>
    rw [← menu.succeeded_dispatchAll_iff]
    show (if (menu.dispatchAll commandLines).succeeded then (0 : UInt8) else 1) = 0 ↔ _
    cases (menu.dispatchAll commandLines).succeeded <;> decide
  case fails =>
    rw [← menu.failed_dispatchAll_iff]
    show (if (menu.dispatchAll commandLines).succeeded then (0 : UInt8) else 1) = 1 ↔ _
    cases (menu.dispatchAll commandLines).succeeded <;> decide

/-! ## The batch command -/

/-- The events of a run that are reported under each profile. -/
theorem mem_reported_iff {invocation : Invocation} {ending : Ending} {event : Event} :
    event ∈ invocation.reported ending ↔ event ∈ ending.events ∧
      (invocation.profile = .development ∧ event.level ≠ .trace ∨
        invocation.profile = .production ∧ event.level ∈ [.error, .warn, .info]) := by
  rw [Invocation.reported, List.mem_filter]
  cases invocation.profile <;> simp [Profile.reports, or_assoc]

/-- **A batch runs all of its command lines, or nothing at all.** Without a configuration, or
without a script that is text, it ends with code 2 and dispatches and prints nothing. Otherwise it
dispatches the command lines of the configuration and then those of the script on the menu as it is
delivered, each one of them; it ends with code 0 if all of them succeed and with 1 if one fails,
and prints the store that is left if that was asked for. How events are reported changes neither
the code nor what is printed: under any profile the program ends with this code and has printed
this, and its log has of the events of the run those that the profile reports, which are all but
traces in development, those from `info` on in production, and none under test. -/
theorem batch_runs_all_or_nothing (config script : Option String) (profile : Profile)
    (dumpStore : Bool) (surroundings : Surroundings) :
    let configFile := config.map surroundings.file
    let scriptFile := script.map surroundings.file
    let ending := Invocation.run ⟨config, profile, .batch script dumpStore⟩ surroundings
    ((¬∃ config, GivesConfig configFile config) ∨ (¬∃ script, GivesScript scriptFile script) →
      ending.Prevented) ∧
    (∀ config script, GivesConfig configFile config → GivesScript scriptFile script →
      ending.Dispatched (deliveredMenu config) (config.predefined ++ Script.commands script)
        dumpStore) ∧
    ∀ other : Profile,
      let invocation : Invocation := ⟨config, other, .batch script dumpStore⟩
      (invocation.run surroundings).code = ending.code ∧
      (invocation.run surroundings).output = ending.output ∧
      (∀ event, event ∈ invocation.reported ending ↔ event ∈ ending.events ∧
        (other = .development ∧ event.level ≠ .trace ∨
          other = .production ∧ event.level ∈ [.error, .warn, .info])) ∧
      ∃ scene,
        (invocation.perform : Played UInt8).run surroundings.scene = some (ending.code, scene) ∧
        scene.output.written = ending.output ∧
        scene.log = (invocation.reported ending).map other.line
          ++ ending.failure.toList.map fun fault => "Error: " ++ fault.message := by
  intro configFile scriptFile ending
  refine ⟨?prevented, ?dispatched, ?reported⟩
  case prevented => exact fun lacking => prevented_runBatch lacking dumpStore
  case dispatched => exact fun _ _ gives writes => dispatched_runBatch gives writes dumpStore
  case reported =>
    -- the run does not know the profile, which decides only what is shown of its events
    intro other invocation
    exact ⟨rfl, rfl, fun _ => mem_reported_iff, perform_shows_run invocation surroundings⟩

/-- A configuration brings a write, and its script has a command of the device, a write that is
turned down and a line that cannot be split. Only the last line fails; the store is printed all
the same, also where nothing is reported. Where the script is missing, not even the write of the
configuration is dispatched. -/
theorem batch_of_unsplittable_line :
    let yaml := "predefined_commands: [[setdb,min_tilt,5]]"
    let config : Config := { Config.defaults with predefined := [["setdb", "min_tilt", "5"]] }
    let tree : Input.Tree := fun place =>
      if place = [] ∨ place = ["home"] then some .directory
      else if place = ["menu.yaml"] then some (.file (Text.encode yaml))
      else if place = ["home", "script"] then
        some (.file (Text.encode "Calibrate\nsetdb max_tilt x\ngetdb 'a"))
      else none
    let surroundings : Surroundings := .ofTree tree ["home"] []
    let invocation := fun profile script =>
      Invocation.mk (some "../menu.yaml") profile (.batch (some script) true)
    let run := fun script => (invocation .production script).run surroundings
    (run "script").code = 1 ∧
      announcements (run "script").events =
        [["setdb", "min_tilt", "5"], ["Calibrate"], ["setdb", "max_tilt", "x"], []].map
          (deliveredMenu config).announcement ∧
      (run "script").output =
        (Store.defaults.insert Store.Key.minTilt ⟨.int 5, .readWrite⟩).dump ++ "\n" ∧
      (∃ scene,
        ((invocation .test "script").perform : Played UInt8).run surroundings.scene =
          some (1, scene) ∧
        scene.output.written = (run "script").output ∧ scene.log = []) ∧
      (run "elsewhere").code = 2 ∧ (run "elsewhere").output = "" ∧
      announcements (run "elsewhere").events = [] := by
  intro yaml config tree surroundings invocation run
  have read : Config.ofYaml? yaml = some config := by decide +kernel
  have parsed : Config.parse yaml = .ok config := by
    rw [Config.parse, read]
    rfl
  have gives : GivesConfig (some (surroundings.file "../menu.yaml")) config :=
    .file (Text.decode?_encode yaml) parsed
  have writes : GivesScript (some (surroundings.file "script"))
      "Calibrate\nsetdb max_tilt x\ngetdb 'a" :=
    .file (Text.decode?_encode _)
  have nowhere : surroundings.file "elsewhere" = .unreadable .missing := rfl
  have missing : ¬∃ script, GivesScript (some (surroundings.file "elsewhere")) script := by
    rw [nowhere]
    rintro ⟨script, ⟨⟩⟩
  obtain ⟨_, dispatched, reported⟩ :=
    batch_runs_all_or_nothing (some "../menu.yaml") (some "script") .production true surroundings
  obtain ⟨prevented, _, _⟩ :=
    batch_runs_all_or_nothing (some "../menu.yaml") (some "elsewhere") .production true surroundings
  have ended := dispatched config _ gives writes
  have nothing := prevented (.inr missing)
  have commands : config.predefined ++ Script.commands "Calibrate\nsetdb max_tilt x\ngetdb 'a" =
      [["setdb", "min_tilt", "5"], ["Calibrate"], ["setdb", "max_tilt", "x"], []] := by
    decide
  rw [commands] at ended
  have failed := ended.fails_iff.mpr ⟨3, rfl⟩
  obtain ⟨_, _, of_reported, scene, performed, printed, logged⟩ := reported .test
  have silent : (invocation .test "script").reported (run "script") = [] := by
    refine List.eq_nil_iff_forall_not_mem.mpr fun event member => ?_
    obtain ⟨_, ⟨⟨⟩, _⟩ | ⟨⟨⟩, _⟩⟩ := (of_reported event).mp member
  refine ⟨failed, ended.announced, ended.output, ⟨scene, failed ▸ performed, printed, ?_⟩,
    nothing.code, nothing.output, nothing.idle⟩
  rw [logged, silent, ended.failure]
  rfl

end TiltMenu.Program
