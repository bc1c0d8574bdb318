import TiltMenu.Input.File

/-!
# Files in a tree of directories

A tree says what stands at a place: nothing, a directory or a file. A place is the
list of names that lead to it from the root.

A path is followed name by name. The empty name and `.` stay in a directory, `..` goes
up, and the root is above itself; any other name goes down, also to where nothing
stands. Only in a directory can a path go on. So a file followed by a slash is an
obstacle, and so is a missing directory that the path leaves again.
-/

set_option autoImplicit false

namespace TiltMenu.Input

/-- What stands at a place. -/
inductive Entry where
  | directory
  | file (bytes : List UInt8)
  deriving DecidableEq, Repr

/-- What stands at each place, given by the names that lead to it from the root. -/
abbrev Tree := List String → Option Entry

namespace Tree

/-- The most bytes that a name has. -/
def longestName : Nat := 255

/-- The most bytes that a path has. -/
def longestPath : Nat := 4095

/-- The place to which a name leads. -/
def step (tree : Tree) (place : List String) (name : String) : Except Obstacle (List String) :=
  match tree place with
  | none => .error .missing
  | some (.file _) => .error .notDirectory
  | some .directory =>
    if name = "" ∨ name = "." then .ok place
    else if name = ".." then .ok place.dropLast
    else if longestName < name.utf8ByteSize then .error .tooLong
    else .ok (place ++ [name])

/-- The place to which names lead, one after the other. -/
def follow (tree : Tree) (place : List String) (names : List String) :
    Except Obstacle (List String) :=
  names.foldlM tree.step place

/-- The place where a path starts: the root if it begins with a slash, and the working
directory otherwise. -/
def start (working : List String) (path : String) : List String :=
  if path.toList.head? = some '/' then [] else working

/-- The names of a path, between its slashes. -/
def names (path : String) : List String := (path.toList.splitOn '/').map String.ofList

/-- What a path leads to. -/
def read (tree : Tree) (working : List String) (path : String) : File :=
  if path = "" then .unreadable .missing
  else if longestPath < path.utf8ByteSize then .unreadable .tooLong
  else
    match tree.follow (start working path) (names path) with
    | .error obstacle => .unreadable obstacle
    | .ok place =>
      match tree place with
      | none => .unreadable .missing
      | some .directory => .unreadable .directory
      | some (.file bytes) => .content bytes

end Tree

end TiltMenu.Input
