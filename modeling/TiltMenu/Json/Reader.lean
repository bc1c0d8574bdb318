import TiltMenu.Json.Basic
import TiltMenu.Text.Hex

/-!
# Reading JSON

Reading follows the grammar strictly: no comments, no trailing commas, no leading
zeros, no raw control characters in strings. Blanks are spaces, tabs, newlines and
carriage returns.

The reader of values takes a bound for its steps. Of two steps at least one takes
a character, so twice the length of the text is enough (`parse?`).
-/

set_option autoImplicit false

namespace TiltMenu.Json

/-- The characters between tokens. -/
def isJsonBlank (character : Char) : Bool :=
  character == ' ' || character == '\t' || character == '\n' || character == '\r'

/-- The text from its first character that is not blank. -/
def skipBlanks (text : List Char) : List Char := text.dropWhile isJsonBlank

/-! ## Strings -/

/-- A part of a string as it is written: a character, or an escape by the number of a
UTF-16 code unit. -/
inductive Piece where
  | char (character : Char)
  | unit (code : Nat)
  deriving DecidableEq, Repr

/-- The character that follows a backslash, as the character that it stands for. -/
def escapedChar? : Char → Option Char
  | '"' => some '"'
  | '\\' => some '\\'
  | '/' => some '/'
  | 'b' => some '\x08'
  | 'f' => some '\x0c'
  | 'n' => some '\n'
  | 'r' => some '\r'
  | 't' => some '\t'
  | _ => none

/-- The parts of a string after its opening quote, and the text behind its closing
quote. -/
def readPieces : List Char → Option (List Piece × List Char)
  | [] => none
  | '"' :: rest => some ([], rest)
  | '\\' :: 'u' :: first :: second :: third :: fourth :: rest => do
    let code ← Text.readBase? 16 0 [first, second, third, fourth]
    let (pieces, after) ← readPieces rest
    return (.unit code :: pieces, after)
  | '\\' :: escaped :: rest => do
    let character ← escapedChar? escaped
    let (pieces, after) ← readPieces rest
    return (.char character :: pieces, after)
  | character :: rest =>
    if character.toNat < 32 ∨ character = '\\' then none
    else do
      let (pieces, after) ← readPieces rest
      return (.char character :: pieces, after)

/-- The text that the parts of a string spell. Two code units that form a surrogate
pair are one character; a unit that is half of a pair alone spells nothing. -/
def spell? : List Piece → Option (List Char)
  | [] => some []
  | .char character :: rest => (spell? rest).map (character :: ·)
  | .unit high :: .unit low :: rest =>
    if 0xD800 ≤ high ∧ high < 0xDC00 then
      if 0xDC00 ≤ low ∧ low < 0xE000 then
        (spell? rest).map
          (Char.ofNat (0x10000 + 0x400 * (high - 0xD800) + (low - 0xDC00)) :: ·)
      else none
    else if 0xDC00 ≤ high ∧ high < 0xE000 then none
    else (spell? (.unit low :: rest)).map (Char.ofNat high :: ·)
  | .unit code :: rest =>
    if 0xD800 ≤ code ∧ code < 0xE000 then none
    else (spell? rest).map (Char.ofNat code :: ·)

/-- A string after its opening quote. -/
def readString (text : List Char) : Option (Option String × List Char) :=
  (readPieces text).map fun read => ((spell? read.1).map String.ofList, read.2)

/-! ## Numbers -/

/-- At least one digit, and the text behind the digits. -/
def readDigits (text : List Char) : Option (List Char × List Char) :=
  match text.takeWhile Char.isDigit with
  | [] => none
  | digits => some (digits, text.dropWhile Char.isDigit)

/-- The text behind an optional fraction. The flag says whether there was one. -/
def skipFraction : List Char → Option (Bool × List Char)
  | '.' :: rest => (readDigits rest).map fun read => (true, read.2)
  | text => some (false, text)

/-- The text behind an exponent without its letter. -/
def skipExponentDigits : List Char → Option (List Char)
  | '+' :: rest | '-' :: rest => (readDigits rest).map Prod.snd
  | text => (readDigits text).map Prod.snd

/-- The text behind an optional exponent. The flag says whether there was one. -/
def skipExponent : List Char → Option (Bool × List Char)
  | 'e' :: rest | 'E' :: rest => (skipExponentDigits rest).map fun after => (true, after)
  | text => some (false, text)

/-- A number without its sign. -/
def readUnsigned (negative : Bool) (text : List Char) : Option (Json × List Char) := do
  let (digits, afterDigits) ← readDigits text
  if digits.head? = some '0' ∧ 1 < digits.length then none
  else
    let (hasFraction, afterFraction) ← skipFraction afterDigits
    let (hasExponent, after) ← skipExponent afterFraction
    let size : Int := Nat.ofDigitChars 10 digits 0
    if hasFraction ∨ hasExponent ∨ (negative ∧ size = 0) then return (.decimal, after)
    else return (.integer (if negative then -size else size), after)

/-- A number. -/
def readNumber : List Char → Option (Json × List Char)
  | '-' :: rest => readUnsigned true rest
  | text => readUnsigned false text

/-! ## Values -/

/-- A value that is no container. -/
def readScalar : List Char → Option (Json × List Char)
  | 'n' :: 'u' :: 'l' :: 'l' :: rest => some (.null, rest)
  | 't' :: 'r' :: 'u' :: 'e' :: rest => some (.bool true, rest)
  | 'f' :: 'a' :: 'l' :: 's' :: 'e' :: rest => some (.bool false, rest)
  | '"' :: rest => (readString rest).map fun read => (.string read.1, read.2)
  | text => readNumber text

mutual

/-- A value in at most some number of steps, and the text behind it. -/
def readValue : Nat → List Char → Option (Json × List Char)
  | 0, _ => none
  | steps + 1, text =>
    match skipBlanks text with
    | '[' :: rest =>
      match skipBlanks rest with
      | ']' :: after => some (.array [], after)
      | inside => (readItems steps inside).map fun read => (.array read.1, read.2)
    | '{' :: rest =>
      match skipBlanks rest with
      | '}' :: after => some (.object [], after)
      | inside => (readMembers steps inside).map fun read => (.object read.1, read.2)
    | scalar => readScalar scalar

/-- The items of an array that has some, and the text behind its closing bracket. -/
def readItems : Nat → List Char → Option (List Json × List Char)
  | 0, _ => none
  | steps + 1, text =>
    match readValue steps text with
    | none => none
    | some (first, rest) =>
      match skipBlanks rest with
      | ']' :: after => some ([first], after)
      | ',' :: inside => (readItems steps inside).map fun read => (first :: read.1, read.2)
      | _ => none

/-- The members of an object that has some, and the text behind its closing brace. -/
def readMembers : Nat → List Char → Option (List (Option String × Json) × List Char)
  | 0, _ => none
  | steps + 1, text =>
    match skipBlanks text with
    | '"' :: quoted =>
      match readString quoted with
      | none => none
      | some (name, afterName) =>
        match skipBlanks afterName with
        | ':' :: afterColon =>
          match readValue steps afterColon with
          | none => none
          | some (value, rest) =>
            match skipBlanks rest with
            | '}' :: after => some ([(name, value)], after)
            | ',' :: inside =>
              (readMembers steps inside).map fun read => ((name, value) :: read.1, read.2)
            | _ => none
        | _ => none
    | _ => none

end

/-- The value that a text writes, with blanks around it and nothing else. -/
def parse? (text : List Char) : Option Json :=
  match readValue (2 * text.length + 2) text with
  | none => none
  | some (value, rest) => if skipBlanks rest = [] then some value else none

end TiltMenu.Json
