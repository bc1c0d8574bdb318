import TiltMenu.Config.Yaml
import TiltMenu.Proofs.Menu.Reconfiguration
import TiltMenu.Proofs.Menu.Routing

/-!
# Valid configurations

A configuration that was read is accepted as it is exactly if its schema version is supported and
none of its names is blank (`IsValid`). Otherwise the fault is about the first thing that is wrong,
where the version comes before the names of the store and these before the names of the device
(`IsWrong`).

A menu that got its names from a valid configuration has no blank ones, and it gets none as long as
no others are installed than those of valid configurations and names that are not blank
(`withoutBlanks_history`). So it takes a command line with a blank first word for one of an unknown
name (`validation_is_exact_and_protects_dispatch`).
-/

set_option autoImplicit false

namespace TiltMenu

namespace Config

/-! ## What is wrong with a configuration -/

/-- The name has no character that is not blank. It may be empty. -/
def Blank (name : String) : Prop := ∀ character ∈ name.toList, Text.isBlank character = true

theorem isBlankName_iff (name : String) : isBlankName name = true ↔ Blank name :=
  List.all_eq_true

instance (name : String) : Decidable (Blank name) := decidable_of_iff _ (isBlankName_iff name)

/-- The version is supported, and no name is blank. -/
structure IsValid (config : Config) : Prop where
  version : config.schemaVersion = 0
  storeNames : ∀ name ∈ config.storeCommands, ¬Blank name
  deviceNames : ∀ name ∈ config.deviceCommands, ¬Blank name

/-- The place, counted from zero, is that of the first blank name of a list. -/
structure IsFirstBlank (names : List String) (place : Nat) : Prop where
  blank : ∃ name, names[place]? = some name ∧ Blank name
  others : ∀ earlier < place, ∀ name, names[earlier]? = some name → ¬Blank name

/-- What is wrong first with a configuration, as it is reported. -/
inductive IsWrong (config : Config) : String → Prop where
  | version (unsupported : config.schemaVersion ≠ 0) :
      IsWrong config
        ("Unsupported schema_version: " ++ toString config.schemaVersion.toNat ++ ". Expected 0")
  | storeName {place : Nat} (supported : config.schemaVersion = 0)
      (first : IsFirstBlank config.storeCommands place) :
      IsWrong config ("Blank command name at database_commands[" ++ toString place ++ "]")
  | deviceName {place : Nat} (supported : config.schemaVersion = 0)
      (storeNames : ∀ name ∈ config.storeCommands, ¬Blank name)
      (first : IsFirstBlank config.deviceCommands place) :
      IsWrong config ("Blank command name at controller_commands[" ++ toString place ++ "]")

/-! ## Finding it -/

theorem findIdx?_isBlankName_iff (names : List String) (place : Nat) :
    names.findIdx? isBlankName = some place ↔ IsFirstBlank names place := by
  rw [List.findIdx?_eq_some_iff_getElem]
  constructor
  · rintro ⟨bound, blank, others⟩
    refine ⟨⟨names[place], List.getElem?_eq_getElem bound, (isBlankName_iff _).mp blank⟩, ?_⟩
    intro earlier before name found here
    obtain ⟨_, rfl⟩ := List.getElem?_eq_some_iff.mp found
    exact others earlier before ((isBlankName_iff _).mpr here)
  · rintro ⟨⟨name, found, blank⟩, others⟩
    obtain ⟨bound, rfl⟩ := List.getElem?_eq_some_iff.mp found
    refine ⟨bound, (isBlankName_iff _).mpr blank, fun earlier before here => ?_⟩
    exact others earlier before _ (List.getElem?_eq_getElem _) ((isBlankName_iff _).mp here)

theorem blankName?_eq_none_iff (family : String) (names : List String) :
    blankName? family names = none ↔ ∀ name ∈ names, ¬Blank name := by
  rw [blankName?, Option.map_eq_none_iff, List.findIdx?_eq_none_iff]
  simp only [← isBlankName_iff, Bool.not_eq_true]

theorem blankName?_eq_some_iff (family : String) (names : List String) (fault : Fault) :
    blankName? family names = some fault ↔
      ∃ place, IsFirstBlank names place ∧
        fault = .invalidConfig
          ("Blank command name at " ++ family ++ "[" ++ toString place ++ "]") := by
  rw [blankName?, Option.map_eq_some_iff]
  simp only [findIdx?_isBlankName_iff, eq_comm]

theorem versionFault?_eq_none_iff (version : UInt32) :
    versionFault? version = none ↔ version = 0 := by
  unfold versionFault?
  split <;> simp_all [supportedVersion]

theorem versionFault?_eq_some_iff (version : UInt32) (fault : Fault) :
    versionFault? version = some fault ↔
      version ≠ 0 ∧ fault = .invalidConfig
        ("Unsupported schema_version: " ++ toString version.toNat ++ ". Expected 0") := by
  have expected : ". Expected " ++ toString supportedVersion.toNat = ". Expected 0" := by decide
  unfold versionFault?
  rw [String.append_assoc, expected]
  split
  · next supported => simp [show version = 0 from supported]
  · next unsupported =>
    rw [Option.some.injEq, eq_comm]
    exact (and_iff_right unsupported).symm

/-- The faults are looked for one after the other. -/
theorem fault?_eq (config : Config) :
    config.fault? =
      (versionFault? config.schemaVersion).or
        ((blankName? "database_commands" config.storeCommands).or
          (blankName? "controller_commands" config.deviceCommands)) := by
  simp only [fault?, Option.or_eq_orElse, Option.orElse_eq_orElse]

/-- **Nothing is wrong exactly with valid configurations.** -/
theorem fault?_eq_none_iff (config : Config) : config.fault? = none ↔ config.IsValid := by
  rw [fault?_eq, Option.or_eq_none_iff, Option.or_eq_none_iff, versionFault?_eq_none_iff,
    blankName?_eq_none_iff, blankName?_eq_none_iff]
  exact ⟨fun ⟨version, store, device⟩ => ⟨version, store, device⟩,
    fun ⟨version, store, device⟩ => ⟨version, store, device⟩⟩

/-- **What is found is what is wrong first.** -/
theorem fault?_eq_some_iff (config : Config) (fault : Fault) :
    config.fault? = some fault ↔
      ∃ reason, fault = .invalidConfig reason ∧ config.IsWrong reason := by
  rw [fault?_eq, Option.or_eq_some_iff, Option.or_eq_some_iff, versionFault?_eq_some_iff,
    versionFault?_eq_none_iff, blankName?_eq_none_iff, blankName?_eq_some_iff,
    blankName?_eq_some_iff]
  constructor
  · rintro (⟨unsupported, rfl⟩ | ⟨supported, ⟨place, first, rfl⟩ | ⟨named, place, first, rfl⟩⟩)
    · exact ⟨_, rfl, .version unsupported⟩
    · exact ⟨_, rfl, .storeName supported first⟩
    · exact ⟨_, rfl, .deviceName supported named first⟩
  · rintro ⟨reason, rfl, wrong⟩
    cases wrong with
    | version unsupported => exact .inl ⟨unsupported, rfl⟩
    | storeName supported first => exact .inr ⟨supported, .inl ⟨_, first, rfl⟩⟩
    | deviceName supported named first => exact .inr ⟨supported, .inr ⟨named, _, first, rfl⟩⟩

/-! ## Accepting a configuration -/

theorem validate_eq_ok_iff (config accepted : Config) :
    config.validate = .ok accepted ↔ accepted = config ∧ config.IsValid := by
  rw [← fault?_eq_none_iff, validate]
  cases config.fault? <;> simp [eq_comm]

theorem validate_eq_error_iff (config : Config) (fault : Fault) :
    config.validate = .error fault ↔
      ∃ reason, fault = .invalidConfig reason ∧ config.IsWrong reason := by
  rw [← fault?_eq_some_iff, validate]
  cases config.fault? <;> simp

/-- A text that is read as a configuration is parsed by validating that. -/
theorem parse_eq_validate {text : String} {config : Config} (read : ofYaml? text = some config) :
    parse text = config.validate := by
  rw [parse, read]

end Config

/-! ## Menus without blank names -/

namespace NameSet

/-- A set of names of which none is blank has no blank ones. -/
theorem contains_ofList_of_blank {names : List String} (named : ∀ name ∈ names, ¬Config.Blank name)
    {word : String} (blank : Config.Blank word) : (ofList names).contains word = false := by
  rw [← Bool.not_eq_true, contains_ofList_iff]
  exact fun member => named word member blank

end NameSet

namespace Families

/-- No name of the families is blank. -/
structure WithoutBlanks (families : Families) : Prop where
  store : ∀ word, Config.Blank word → families.store.contains word = false
  device : ∀ word, Config.Blank word → families.device.contains word = false

/-- A blank word is of an unknown name then, since no action has a blank one. -/
theorem WithoutBlanks.classify_eq_unknown {families : Families}
    (withoutBlanks : families.WithoutBlanks) {word : String} (blank : Config.Blank word) :
    families.classify word = .unknown := by
  have notHelp : word ≠ Action.help := by
    rintro rfl
    exact absurd blank (by decide)
  have notExit : word ≠ Action.exit := by
    rintro rfl
    exact absurd blank (by decide)
  simp [classify, withoutBlanks.store word blank, withoutBlanks.device word blank, notHelp, notExit]

end Families

namespace Menu

variable {σ ν δ κ ρ : Type}

/-- The operation brings no blank name, neither itself nor in a configuration. -/
def Operation.BringsNoBlank : Operation σ → Prop
  | .storeNames names | .deviceNames names => ∀ name ∈ names, ¬Config.Blank name
  | .configure config => config.IsValid
  | _ => True

/-- The families with the names of a valid configuration have no blank ones. -/
theorem withoutBlanks_applyConfig (menu : Menu σ ν δ) {config : Config} (valid : config.IsValid) :
    (menu.applyConfig config).families.WithoutBlanks where
  store _ := NameSet.contains_ofList_of_blank valid.storeNames
  device _ := NameSet.contains_ofList_of_blank valid.deviceNames

section Running

variable [Executor σ κ] [Validator ν κ] [Validator δ ρ]

/-- An operation that brings no blank names leaves the families without them. -/
theorem withoutBlanks_after {menu : Menu σ ν δ} (withoutBlanks : menu.families.WithoutBlanks)
    {operation : Operation σ} (bringsNone : operation.BringsNoBlank) :
    (menu.after operation).families.WithoutBlanks := by
  cases operation with
  | storeNames names =>
    exact ⟨fun _ => NameSet.contains_ofList_of_blank bringsNone, withoutBlanks.device⟩
  | deviceNames names =>
    exact ⟨withoutBlanks.store, fun _ => NameSet.contains_ofList_of_blank bringsNone⟩
  | configure config => exact menu.withoutBlanks_applyConfig bringsNone
  | dispatch _ | batch _ | session _ | sessionPart _ _ _ | control _ =>
    -- these install no names
    rw [families_after]
    exact withoutBlanks

/-- **Blank names do not come up** in a history whose operations bring none. -/
theorem withoutBlanks_history {menu : Menu σ ν δ} (withoutBlanks : menu.families.WithoutBlanks)
    (operations : List (Operation σ))
    (bringNone : ∀ operation ∈ operations, operation.BringsNoBlank) :
    (menu.history operations).families.WithoutBlanks := by
  induction operations generalizing menu with
  | nil => exact withoutBlanks
  | cons first rest ih =>
    obtain ⟨bringsNone, others⟩ := List.forall_mem_cons.mp bringNone
    exact ih (withoutBlanks_after withoutBlanks bringsNone) others

/-! ## Blank words -/

theorem dispatch_of_unknown {menu : Menu σ ν δ} {word : String}
    (unknown : menu.families.classify word = .unknown) (arguments : List String) :
    menu.dispatch (word :: arguments) = ⟨true, menu, [menu.unknownEvent word]⟩ := by
  simp only [dispatch, route, unknown]

/-- The menu takes the command line for one of an unknown name. It says so and counts it as a
success, calls none of its parts and stays as it is. -/
structure Disregards (menu : Menu σ ν δ) (word : String) (arguments : List String) : Prop where
  unknown : menu.families.classify word = .unknown
  outcome : menu.dispatch (word :: arguments) = ⟨true, menu, [menu.unknownEvent word]⟩
  /-- The watched parts are not called. -/
  uncalled : ((menu.watch κ).dispatch (word :: arguments)).state = menu.watch κ

/-- **A menu without blank names disregards blank words.** -/
theorem disregards_of_blank {menu : Menu σ ν δ} (withoutBlanks : menu.families.WithoutBlanks)
    {word : String} (blank : Config.Blank word) (arguments : List String) :
    menu.Disregards word arguments := by
  have unknown := withoutBlanks.classify_eq_unknown blank
  have watched : (menu.watch κ).families.classify word = .unknown := unknown
  exact ⟨unknown, dispatch_of_unknown unknown arguments,
    by rw [dispatch_of_unknown watched arguments]⟩

end Running

end Menu

/-- **Validation is exact and protects dispatching.** A text that is read as a configuration is
accepted, as that configuration, exactly if its version is supported and none of its names is blank.
Otherwise the fault tells of the version if that is wrong, and else of the first blank name and its
place, the names of the store before those of the device.

When any menu has taken the names of an accepted configuration, and whatever happens to it then
unless names that are blank are installed, a command line with a blank first word is of an unknown
name: it succeeds, no part of the menu is called and nothing changes. -/
theorem Config.validation_is_exact_and_protects_dispatch {text : String} {config : Config}
    (read : ofYaml? text = some config) :
    (∀ accepted, parse text = .ok accepted ↔ accepted = config ∧ config.IsValid) ∧
    (∀ fault, parse text = .error fault ↔
      ∃ reason, fault = .invalidConfig reason ∧ config.IsWrong reason) ∧
    (parse text = .ok config →
      ∀ {σ ν δ κ ρ : Type} [Executor σ κ] [Validator ν κ] [Validator δ ρ] (menu : Menu σ ν δ)
        (later : List (Menu.Operation σ)), (∀ operation ∈ later, operation.BringsNoBlank) →
      ∀ word, Blank word → ∀ arguments,
        ((menu.applyConfig config).history later).Disregards word arguments) := by
  rw [parse_eq_validate read]
  refine ⟨config.validate_eq_ok_iff, config.validate_eq_error_iff, ?_⟩
  intro accepted σ ν δ κ ρ _ _ _ menu later bringNone word blank arguments
  have valid := ((config.validate_eq_ok_iff config).mp accepted).2
  have withoutBlanks := menu.withoutBlanks_applyConfig valid
  exact Menu.disregards_of_blank (Menu.withoutBlanks_history withoutBlanks later bringNone) blank
    arguments

/-- Blanks within a name do no harm. Of two faults the one of the store is reported, wherever the
document has it. A menu that had a blank name loses it to a configuration. -/
theorem Config.validation_of_blank_names :
    let text := "database_commands: [getdb, ' x']\ncontroller_commands: []"
    let config : Config := ⟨0, ["getdb", " x"], [], []⟩
    let faulty := "controller_commands: ['']\ndatabase_commands: [getdb, \"\\u2003\"]"
    let menu := ((Rehearsal.menu "menu" .defaults [] true true).replaceStoreNames [" "]).2
    let later := [.storeNames ["getdb"], .dispatch ["getdb", "x"]]
    ofYaml? text = some config ∧ parse text = .ok config ∧
      parse faulty = .error (.invalidConfig "Blank command name at database_commands[1]") ∧
      menu.families.classify " " = .store ∧
      ((menu.applyConfig config).history later).Disregards " " ["x"] := by
  intro text config faulty menu later
  have read : ofYaml? text = some config := by decide +kernel
  have readFaulty : ofYaml? faulty = some ⟨0, ["getdb", "\u2003"], [""], []⟩ := by decide +kernel
  obtain ⟨accepts, _, protects⟩ := validation_is_exact_and_protects_dispatch read
  obtain ⟨_, refuses, _⟩ := validation_is_exact_and_protects_dispatch readFaulty
  have accepted : parse text = .ok config :=
    (accepts config).mpr ⟨rfl, by decide, by decide, by decide⟩
  have first : IsFirstBlank ["getdb", "\u2003"] 1 := by
    refine ⟨⟨"\u2003", rfl, by decide⟩, ?_⟩
    intro earlier before name found
    obtain rfl : earlier = 0 := by omega
    cases found
    decide
  have message : "Blank command name at database_commands[" ++ toString 1 ++ "]" =
      "Blank command name at database_commands[1]" := by decide
  have refused := (refuses _).mpr ⟨_, rfl, .storeName rfl first⟩
  rw [message] at refused
  refine ⟨read, accepted, refused, by decide, ?_⟩
  have named : ∀ name ∈ ["getdb"], ¬Blank name := by decide
  refine protects accepted menu later ?_ " " (by decide) ["x"]
  exact List.forall_mem_cons.mpr ⟨named, List.forall_mem_singleton.mpr trivial⟩

end TiltMenu
