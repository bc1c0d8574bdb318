import TiltMenu.Json.Writer

/-!
# Session identifiers

A session is identified by a text. A fresh identifier is a UUID of version 7: 48
bits of time and 74 random bits in 32 hexadecimal digits, with dashes between the
groups of digits.
-/

set_option autoImplicit false

namespace TiltMenu

/-- The identifier of a session. -/
structure SessionId where
  text : String
  deriving DecidableEq, Repr

namespace SessionId

/-- The identifier as JSON text: a string. -/
def toJsonText (id : SessionId) : String := String.ofList (Json.writeString (some id.text))

/-- The lengths of the groups of digits. -/
def groupLengths : List Nat := [8, 4, 4, 4, 12]

/-- Digits in groups of given lengths. -/
def groups : List Nat → List Char → List (List Char)
  | [], _ => []
  | length :: rest, digits => digits.take length :: groups rest (digits.drop length)

/-- A fresh identifier from the milliseconds since 1970 and 74 random bits. The
thirteenth digit is the version, and the two highest bits of the seventeenth are the
variant. -/
def ofTime (milliseconds random : Nat) : SessionId :=
  let digits :=
    Text.writeHex milliseconds 12 ++ ['7'] ++ Text.writeHex (random / 0x4000000000000000) 3
      ++ Text.writeHex (0x8000000000000000 + random % 0x4000000000000000) 16
  ⟨String.intercalate "-" ((groups groupLengths digits).map String.ofList)⟩

end SessionId

end TiltMenu
