import TiltMenu.CommandLine.Script
import TiltMenu.Fault
import TiltMenu.Text.Utf8

/-!
# Files

What a path leads to, and the files that hold text and scripts. A path that leads
to no file, or to one whose bytes are not text, is a fault that names the operation
for which the file was read.
-/

set_option autoImplicit false

namespace TiltMenu.Input

/-- Why a path leads to no file that can be read. -/
inductive Obstacle where
  /-- Nothing stands at the end of the path, or on the way. -/
  | missing
  /-- The path leads to a directory. -/
  | directory
  /-- The path goes on behind a file. -/
  | notDirectory
  /-- The path, or a name on it, is longer than any can be. -/
  | tooLong
  /-- The path may not be read. -/
  | forbidden
  /-- The path leads through links that lead on to each other. -/
  | circular
  /-- Anything else that the system reports. -/
  | other (reason : String)
  deriving DecidableEq, Repr

/-- What an obstacle is called. -/
def Obstacle.reason : Obstacle → String
  | .missing => "No such file or directory (os error 2)"
  | .directory => "Is a directory (os error 21)"
  | .notDirectory => "Not a directory (os error 20)"
  | .tooLong => "File name too long (os error 36)"
  | .forbidden => "Permission denied (os error 13)"
  | .circular => "Too many levels of symbolic links (os error 40)"
  | .other reason => reason

/-- What a path leads to. -/
inductive File where
  | content (bytes : List UInt8)
  | unreadable (obstacle : Obstacle)
  deriving DecidableEq, Repr

namespace File

/-- The text of the file. -/
def readText (file : File) (operation : String) : Except Fault String :=
  match file with
  | .unreadable obstacle => .error (.io operation obstacle.reason)
  | .content bytes =>
    match Text.decode? bytes with
    | some text => .ok text
    | none => .error (.io operation "stream did not contain valid UTF-8")

/-- The text of a script. -/
def readScript (file : File) : Except Fault String := file.readText "read_script"

end File

end TiltMenu.Input
