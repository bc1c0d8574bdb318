/-!
# Hexadecimal digits

Digits are read in either case and written in lower case.
-/

set_option autoImplicit false

namespace TiltMenu.Text

/-- The value of a hexadecimal digit. -/
def hexValue? (digit : Char) : Option Nat :=
  if digit.isDigit then some (digit.toNat - 48)
  else if 'a' ≤ digit ∧ digit ≤ 'f' then some (digit.toNat - 87)
  else if 'A' ≤ digit ∧ digit ≤ 'F' then some (digit.toNat - 55)
  else none

/-- The value of digits in a base of at most sixteen, on top of the value of those before
them. -/
def readBase? (base : Nat) : Nat → List Char → Option Nat
  | value, [] => some value
  | value, digit :: rest =>
    match hexValue? digit with
    | some low => if low < base then readBase? base (base * value + low) rest else none
    | none => none

/-- The lowest digits of a number, the highest of them first. -/
def writeHex (value : Nat) : Nat → List Char
  | 0 => []
  | count + 1 => writeHex (value / 16) count ++ [Nat.digitChar (value % 16)]

/-- Reading the digit of a value below sixteen gives the value. -/
theorem hexValue?_digitChar {value : Nat} (small : value < 16) :
    hexValue? (Nat.digitChar value) = some value := by
  revert value
  decide

end TiltMenu.Text
