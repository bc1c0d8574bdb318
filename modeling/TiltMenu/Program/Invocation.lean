import TiltMenu.Log.Profile

/-!
# Invocations

The arguments with which the program is called. Options stand before or behind the
name of the command, and those that both levels know may be given on either; then the
value behind the command counts. On one level an option is given at most once. Behind
two dashes nothing is an option.

| call                                   | meaning                                  |
|----------------------------------------|------------------------------------------|
| `interactive [--prompt TEXT]`          | commands from standard input             |
| `batch [SCRIPT] [--dump-db]`           | commands of the configuration and script |
| `-c FILE`, `--config FILE`             | the configuration                        |
| `--log-profile PROFILE`                | how events are reported                  |
-/

set_option autoImplicit false

namespace TiltMenu.Program

open Log (Profile)

/-- What the program is to do. -/
inductive Task where
  | interactive (prompt : String)
  | batch (script : Option String) (dumpStore : Bool)
  deriving DecidableEq, Repr

/-- A call of the program. -/
structure Invocation where
  config : Option String
  profile : Profile
  task : Task
  deriving DecidableEq, Repr

/-- Why arguments are no invocation. -/
inductive Refusal where
  /-- They do not fit the usage. -/
  | usage
  /-- They ask for help. -/
  | help
  deriving DecidableEq, Repr

/-- The prompt of a session that sets no other. -/
def defaultPrompt : String := "almag> "

/-! ## The form of an argument -/

/-- An argument by its form. -/
inductive Argument where
  /-- Two dashes alone. -/
  | separator
  /-- Two dashes, a name and perhaps a value behind an equals sign. -/
  | long (name : String) (value : Option String)
  /-- One dash, a letter and what follows it. -/
  | short (letter : Char) (attached : List Char)
  | plain (text : String)
  deriving DecidableEq, Repr

/-- The form of an argument. A single dash is a plain argument. -/
def Argument.ofText (text : String) : Argument :=
  match text.toList with
  | ['-', '-'] => .separator
  | '-' :: '-' :: body =>
    let value :=
      match body.dropWhile (· != '=') with
      | [] => none
      | _ :: value => some (String.ofList value)
    .long (String.ofList (body.takeWhile (· != '='))) value
  | '-' :: letter :: attached => .short letter attached
  | _ => .plain text

/-! ## Options -/

/-- The place of an argument: before the name of a command or behind it. -/
inductive Level where
  | program
  | interactive
  | batch
  deriving DecidableEq, Repr

/-- The level behind the name of a command. -/
def Level.ofCommand? (name : String) : Option Level :=
  if name = "interactive" then some .interactive
  else if name = "batch" then some .batch
  else none

/-- The options that take a value. -/
inductive ValueOption where
  | config
  | logProfile
  | prompt
  deriving DecidableEq, Repr

/-- The option of a long name. -/
def ValueOption.ofName? (level : Level) (name : String) : Option ValueOption :=
  if name = "config" then some .config
  else if name = "log-profile" then some .logProfile
  else if name = "prompt" ∧ level = .interactive then some .prompt
  else none

/-- What was given on one level. -/
structure Given where
  config : Option String := none
  profile : Option Profile := none
  prompt : Option String := none
  script : Option String := none
  dumpStore : Bool := false
  deriving DecidableEq, Repr

namespace Given

/-- Gives an option its value. Paths must not be empty. -/
def give (given : Given) (option : ValueOption) (value : String) : Except Refusal Given :=
  match option with
  | .config =>
    if given.config.isSome ∨ value = "" then .error .usage
    else .ok { given with config := some value }
  | .logProfile =>
    match given.profile, Profile.ofWord value with
    | none, .ok profile => .ok { given with profile := some profile }
    | _, _ => .error .usage
  | .prompt =>
    if given.prompt.isSome then .error .usage else .ok { given with prompt := some value }

/-- Gives the script. -/
def giveScript (given : Given) (level : Level) (script : String) : Except Refusal Given :=
  if level ≠ .batch ∨ given.script.isSome ∨ script = "" then .error .usage
  else .ok { given with script := some script }

/-- Asks for the store to be printed. -/
def giveDump (given : Given) (level : Level) : Except Refusal Given :=
  if level ≠ .batch ∨ given.dumpStore then .error .usage
  else .ok { given with dumpStore := true }

end Given

/-! ## Reading arguments -/

/-- What the arguments of one level come to. -/
structure LevelRead where
  given : Given
  /-- The command that follows and its arguments. -/
  command : Option (Level × List String) := none
  deriving DecidableEq, Repr

/-- The arguments behind the word `help`: at most the name of one command. -/
def asksForHelp (arguments : List String) : Bool :=
  match arguments with
  | [] => true
  | [name] => name == "help" || (Level.ofCommand? name).isSome
  | _ => false

/-- Reads plain arguments behind two dashes. -/
def readPlain (level : Level) (given : Given) : List String → Except Refusal LevelRead
  | [] => .ok { given := given }
  | first :: rest => do readPlain level (← given.giveScript level first) rest

/-- The value that an argument is for the option before it. -/
def optionValue? (argument : String) : Option String :=
  match Argument.ofText argument with
  | .plain text => some text
  | _ => none

/-- Reads the arguments of one level. -/
def readLevel (level : Level) (given : Given) (arguments : List String) :
    Except Refusal LevelRead :=
  match arguments with
  | [] => .ok { given := given }
  | first :: rest =>
    let takeValue (option : ValueOption) : Option String → Except Refusal LevelRead
      | some value => do readLevel level (← given.give option value) rest
      | none =>
        match rest with
        | [] => .error .usage
        | next :: others =>
          match optionValue? next with
          | some value => do readLevel level (← given.give option value) others
          | none => .error .usage
    match Argument.ofText first with
    | .separator => readPlain level given rest
    | .long name value =>
      match ValueOption.ofName? level name with
      | some option => takeValue option value
      | none =>
        if name = "help" ∧ value = none then .error .help
        else if name = "dump-db" ∧ value = none then do
          readLevel level (← given.giveDump level) rest
        else .error .usage
    | .short 'c' attached =>
      match attached with
      | [] => takeValue .config none
      | '=' :: value => takeValue .config (some (String.ofList value))
      | value => takeValue .config (some (String.ofList value))
    | .short 'h' _ => .error .help
    | .short _ _ => .error .usage
    | .plain text =>
      match level, Level.ofCommand? text with
      | .program, some command => .ok { given := given, command := some (command, rest) }
      | .program, none =>
        if text = "help" ∧ asksForHelp rest then .error .help else .error .usage
      | _, _ => do readLevel level (← given.giveScript level text) rest
termination_by arguments.length

namespace Invocation

/-- The invocation of what was given before and behind the name of a command. -/
def ofGiven (before behind : Given) (level : Level) : Except Refusal Invocation :=
  let config := behind.config <|> before.config
  let profile := (behind.profile <|> before.profile).getD .development
  match level with
  | .program => .error .usage
  | .interactive => .ok ⟨config, profile, .interactive (behind.prompt.getD defaultPrompt)⟩
  | .batch => .ok ⟨config, profile, .batch behind.script behind.dumpStore⟩

/-- Reads the arguments of the program. -/
def parse (arguments : List String) : Except Refusal Invocation := do
  let before ← readLevel .program {} arguments
  match before.command with
  | none => .error .usage
  | some (level, rest) =>
    let behind ← readLevel level {} rest
    ofGiven before.given behind.given level

/-- The text that explains the arguments. -/
def helpText : String :=
  String.intercalate "\n"
    ["Almag - Antenna line device command menu", "",
      "Usage: almag [OPTIONS] <COMMAND>", "",
      "Commands:",
      "  interactive  Read commands from stdin until exit",
      "  batch        Run the configured predefined commands and/or a script file",
      "  help         Print this message or the help of the given subcommand(s)", "",
      "Options:",
      "  -c, --config <CONFIG>            Menu configuration file (YAML)",
      "      --log-profile <LOG_PROFILE>  Log profile: development or production"
        ++ " [default: development]",
      "  -h, --help                       Print help", ""]

end Invocation

end TiltMenu.Program
