import TiltMenu.CommandLine.Words
import TiltMenu.Log.Event
import TiltMenu.Text.Blank
import TiltMenu.Text.Lines

/-!
# Scripts

A script has one command on each line. Blank lines and comment lines carry no
command and are left out. A line that cannot be split into words gives a command
line without words, so that running the script counts it as a failure.
-/

set_option autoImplicit false

namespace TiltMenu

open Log (Event)

namespace CommandLine

/-- The origin of the events about reading command lines. -/
def origin : String := "almag_core::tokens"

/-- A line that carries no command: a blank one, or a comment after blanks. -/
def isSkippable (line : List Char) : Bool :=
  match Text.trimStart line with
  | [] => true
  | first :: _ => first == '#'

end CommandLine

namespace Script

/-- The lines of a script that carry a command, with their numbers from one. -/
def numberedLines (script : String) : List (List Char × Nat) :=
  ((Text.lines script.toList).zipIdx 1).filter fun numbered =>
    !CommandLine.isSkippable numbered.1

/-- The warning about a line that ends inside a quote or after a backslash. -/
def unsplittable (lineNumber : Nat) : Event where
  level := .warn
  origin := CommandLine.origin
  message := some "Unterminated quote or escape in script line"
  details := [("line", .number lineNumber)]

/-- The command of one line, and a warning if it cannot be split. -/
def commandOf (numbered : List Char × Nat) : CommandLine × List Event :=
  match CommandLine.split? (String.ofList numbered.1) with
  | some command => (command, [])
  | none => ([], [unsplittable numbered.2])

/-- The commands of a script in order. -/
def commands (script : String) : List CommandLine :=
  (numberedLines script).map fun numbered => (commandOf numbered).1

/-- The warnings about a script in order. -/
def warnings (script : String) : List Event :=
  (numberedLines script).flatMap fun numbered => (commandOf numbered).2

end Script

end TiltMenu
