import TiltMenu.Json.Basic
import TiltMenu.Text.Hex

/-!
# Writing JSON

The compact form has no blanks at all. The indented form puts every item and
every member on a line of its own, two spaces deeper than its container, and a
space after the colon; containers without content stay on one line.
-/

set_option autoImplicit false

namespace TiltMenu.Json

/-- A character inside a string. Only quotes, backslashes and the control characters
below the space are escaped. -/
def writeChar : Char → List Char
  | '"' => ['\\', '"']
  | '\\' => ['\\', '\\']
  | '\x08' => ['\\', 'b']
  | '\t' => ['\\', 't']
  | '\n' => ['\\', 'n']
  | '\x0c' => ['\\', 'f']
  | '\r' => ['\\', 'r']
  | character =>
    if character.toNat < 32 then '\\' :: 'u' :: Text.writeHex character.toNat 4 else [character]

/-- A string with its quotes. One that is no text is written as half of a surrogate
pair. -/
def writeString : Option String → List Char
  | some content => '"' :: content.toList.flatMap writeChar ++ ['"']
  | none => '"' :: '\\' :: 'u' :: Text.writeHex 0xD800 4 ++ ['"']

/-- A value that is no container. -/
def writeScalar : Json → List Char
  | .null => ['n', 'u', 'l', 'l']
  | .bool true => ['t', 'r', 'u', 'e']
  | .bool false => ['f', 'a', 'l', 's', 'e']
  | .integer value => value.repr.toList
  | .decimal => ['-', '0']
  | .string content => writeString content
  | .array _ | .object _ => []

/-! ## The compact form -/

mutual

/-- The compact form of a value. -/
def write : Json → List Char
  | .array items => '[' :: writeItems items
  | .object members => '{' :: writeMembers members
  | scalar => writeScalar scalar

/-- The items of an array up to its closing bracket. -/
def writeItems : List Json → List Char
  | [] => [']']
  | [last] => write last ++ [']']
  | first :: rest => write first ++ ',' :: writeItems rest

/-- The members of an object up to its closing brace. -/
def writeMembers : List (Option String × Json) → List Char
  | [] => ['}']
  | [(name, last)] => writeString name ++ ':' :: write last ++ ['}']
  | (name, first) :: rest => writeString name ++ ':' :: write first ++ ',' :: writeMembers rest

end

/-! ## The indented form -/

/-- A line break and the indentation of a depth. -/
def lineBreak (depth : Nat) : List Char := '\n' :: List.replicate (2 * depth) ' '

mutual

/-- The indented form of a value at a depth. -/
def writeIndented (depth : Nat) : Json → List Char
  | .array [] => ['[', ']']
  | .array items => '[' :: writeIndentedItems (depth + 1) items ++ lineBreak depth ++ [']']
  | .object [] => ['{', '}']
  | .object members => '{' :: writeIndentedMembers (depth + 1) members ++ lineBreak depth ++ ['}']
  | scalar => writeScalar scalar

/-- The items of an array, each on a line of a depth. -/
def writeIndentedItems (depth : Nat) : List Json → List Char
  | [] => []
  | [last] => lineBreak depth ++ writeIndented depth last
  | first :: rest =>
    lineBreak depth ++ writeIndented depth first ++ ',' :: writeIndentedItems depth rest

/-- The members of an object, each on a line of a depth. -/
def writeIndentedMembers (depth : Nat) : List (Option String × Json) → List Char
  | [] => []
  | [(name, last)] =>
    lineBreak depth ++ writeString name ++ ':' :: ' ' :: writeIndented depth last
  | (name, first) :: rest =>
    lineBreak depth ++ writeString name ++ ':' :: ' ' :: writeIndented depth first
      ++ ',' :: writeIndentedMembers depth rest

end

end TiltMenu.Json
