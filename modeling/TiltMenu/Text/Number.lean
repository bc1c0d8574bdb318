/-!
# Signed 64-bit integers as decimal text

A number is written with the fewest digits, a minus sign if it is negative and
no other sign. Reading is more generous: it also takes a plus sign and leading
zeros. The digits are read from the left, so of two faults in one text the
leftmost counts: a number that is too long is reported as such even if a
character that is no digit follows later.
-/

set_option autoImplicit false

namespace TiltMenu.Text

/-- Why a text is no signed 64-bit integer. -/
inductive NumberFault where
  | empty
  | invalidDigit
  | tooLarge
  | tooSmall
  deriving DecidableEq, Repr

/-- The reason in words. -/
def NumberFault.message : NumberFault → String
  | .empty => "cannot parse integer from empty string"
  | .invalidDigit => "invalid digit found in string"
  | .tooLarge => "number too large to fit in target type"
  | .tooSmall => "number too small to fit in target type"

/-- One more than the greatest signed 64-bit integer. The least is its negative. -/
def int64Bound : Nat := 0x8000000000000000

/-- The signed 64-bit integer of a value, if there is one. -/
def int64OfInt? (value : Int) : Option Int64 :=
  if -int64Bound ≤ value ∧ value < int64Bound then some (Int64.ofInt value) else none

/-- There is no more than one such integer, and it has the value. -/
theorem int64OfInt?_eq_some_iff (value : Int) (number : Int64) :
    int64OfInt? value = some number ↔ number.toInt = value := by
  unfold int64OfInt?
  constructor
  · intro found
    split at found
    · next inside =>
      cases found
      exact Int64.toInt_ofInt_of_le inside.1 inside.2
    · cases found
  · rintro rfl
    rw [if_pos ⟨number.le_toInt, number.toInt_lt⟩, Int64.ofInt_toInt]

/-- Reads decimal digits on top of the value of those before them. The first
digit that lifts the value above `limit` stops the reading with `overflow`. -/
def readDigits (limit : Nat) (overflow : NumberFault) :
    Nat → List Char → Except NumberFault Nat
  | value, [] => .ok value
  | value, digit :: rest =>
    if digit.isDigit then
      let next := 10 * value + (digit.toNat - 48)
      if next ≤ limit then readDigits limit overflow next rest else .error overflow
    else .error .invalidDigit

/-- Reads a signed 64-bit integer: an optional sign and at least one digit. -/
def readInt64 : List Char → Except NumberFault Int64
  | [] => .error .empty
  | ['-'] => .error .invalidDigit
  | ['+'] => .error .invalidDigit
  | '-' :: digits =>
    (readDigits int64Bound .tooSmall 0 digits).map fun size => Int64.ofInt (-size)
  | '+' :: digits => (readDigits (int64Bound - 1) .tooLarge 0 digits).map Int64.ofNat
  | digits => (readDigits (int64Bound - 1) .tooLarge 0 digits).map Int64.ofNat

/-- The decimal text of an integer. -/
def writeInt64 (number : Int64) : String := number.toInt.repr

end TiltMenu.Text
