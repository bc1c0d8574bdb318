import TiltMenu.Config.Yaml
import TiltMenu.Input.LineSource
import TiltMenu.Input.Tree
import TiltMenu.Menu.Stock
import TiltMenu.Program.Invocation
import TiltMenu.Store.Json

/-!
# Runs of the program

A run ends with an exit code, what it prints, the fault that prevented it, if any, and
the events for the log. A run is prevented by a configuration or a script that cannot be
read; then nothing is dispatched at all, the code is 2 and nothing is printed.

A batch ends with code 0 if every command succeeded and with 1 otherwise. An interactive
session ends with 0: leaving the menu is an ordinary end.
-/

set_option autoImplicit false

namespace TiltMenu.Program

open Log (Event)
open Input (File LineSource)

/-- How a run ends. -/
structure Ending where
  code : UInt8
  output : String := ""
  failure : Option Fault := none
  events : List Event := []
  deriving DecidableEq, Repr

/-- The end of a run that was prevented. -/
def Ending.prevented (fault : Fault) (events : List Event) : Ending :=
  { code := 2, failure := some fault, events := events }

/-- The configuration of a file, or the default without a file. -/
def loadConfig (file : Option File) : Except Fault Config :=
  match file with
  | none => .ok Config.defaults
  | some file => Config.load file

/-- The text of a script, or none without a file. -/
def loadScript (file : Option File) : Except Fault String :=
  match file with
  | none => .ok ""
  | some file => file.readScript

/-- The event about a menu that has its names. -/
def configured (config : Config) : Event where
  level := .debug
  origin := "almag::commands"
  message := some "Menu configured"
  details :=
    [("database", .number config.storeCommands.length),
      ("controller", .number config.deviceCommands.length)]

/-- A stock menu over the store as delivered, with the names of a configuration. -/
def configuredMenu (name : String) (config : Config) : StockMenu :=
  (StockMenu.new name Store.defaults).applyConfig config

/-! ## Batches -/

/-- The command lines of a batch: those of the configuration, then those of the script. -/
def batchCommands (config : Config) (script : String) : List CommandLine :=
  config.predefined ++ Script.commands script

/-- Runs a batch with the files that it needs. -/
def runBatch (configFile scriptFile : Option File) (dumpStore : Bool) : Ending :=
  match loadConfig configFile with
  | .error fault => .prevented fault []
  | .ok config =>
    match loadScript scriptFile with
    | .error fault => .prevented fault [configured config]
    | .ok script =>
      let outcome := (configuredMenu "batch" config).runBatch (batchCommands config script)
      { code := if outcome.succeeded then 0 else 1
        output := if dumpStore then outcome.state.store.dump ++ "\n" else ""
        events := configured config :: Script.warnings script ++ outcome.events }

/-! ## Interactive sessions -/

/-- The event at the end of a session. -/
def sessionFinished (outcome : Bool) : Event where
  level := .info
  origin := "almag::commands::interactive"
  message := some "Session finished"
  details := [("outcome", .flag outcome)]

/-- Runs an interactive session over a source of lines. What it prints are the prompts. -/
def runInteractive (configFile : Option File) (source : LineSource) : Ending :=
  match loadConfig configFile with
  | .error fault => .prevented fault []
  | .ok config =>
    let run := (configuredMenu "interactive" config).runSession source
    { code := 0
      output := run.source.sink.written
      events :=
        configured config :: run.outcome.events ++ [sessionFinished run.outcome.succeeded] }

/-! ## Invocations -/

/-- The surroundings of a run: the files by path and standard input, which is a terminal
or not. -/
structure Surroundings where
  file : String → File
  input : List Input.Chunk
  terminal : Bool := false

/-- The surroundings in a working directory of a tree. -/
def Surroundings.ofTree (tree : Input.Tree) (working : List String)
    (input : List Input.Chunk) : Surroundings where
  file := tree.read working
  input := input

/-- Runs an invocation. The prompt is shown only on a terminal. -/
def Invocation.run (invocation : Invocation) (surroundings : Surroundings) : Ending :=
  let configFile := invocation.config.map surroundings.file
  match invocation.task with
  | .batch script dumpStore =>
    runBatch configFile (script.map surroundings.file) dumpStore
  | .interactive prompt =>
    runInteractive configFile
      { chunks := surroundings.input
        prompt := if surroundings.terminal then some prompt else none }

/-- The events of a run that the log of an invocation shows. -/
def Invocation.reported (invocation : Invocation) (ending : Ending) : List Event :=
  ending.events.filter fun event => invocation.profile.reports event.level

end TiltMenu.Program
