import TiltMenu.Text.Number

/-!
# Decimal text read back

The value of the digits read so far never falls, so a run of digits is read to the end if its
whole value is within the limit (`readDigits_of_le`). Hence the text that is written of a signed
64-bit integer is read back as that integer, at both ends of the range as well
(`readInt64_writeInt64`).
-/

set_option autoImplicit false

namespace TiltMenu.Text

/-! ## Digits -/

/-- Further digits do not make a value smaller. -/
theorem le_ofDigitChars (digits : List Char) (value : Nat) :
    value ≤ Nat.ofDigitChars 10 digits value := by
  induction digits generalizing value with
  | nil => exact Nat.le_refl value
  | cons first rest ih =>
    rw [Nat.ofDigitChars_cons]
    refine Nat.le_trans ?_ (ih _)
    omega

/-- Digits are read to their value if it is within the limit. -/
theorem readDigits_of_le {limit : Nat} {digits : List Char}
    (all : ∀ digit ∈ digits, digit.isDigit = true) (overflow : NumberFault) {value : Nat}
    (bounded : Nat.ofDigitChars 10 digits value ≤ limit) :
    readDigits limit overflow value digits = .ok (Nat.ofDigitChars 10 digits value) := by
  induction digits generalizing value with
  | nil => rfl
  | cons first rest ih =>
    obtain ⟨digit, others⟩ := List.forall_mem_cons.mp all
    rw [Nat.ofDigitChars_cons] at bounded ⊢
    have next : 10 * value + (first.toNat - 48) ≤ limit :=
      Nat.le_trans (le_ofDigitChars rest _) bounded
    rw [readDigits, if_pos digit]
    simp only [if_pos next]
    exact ih others bounded

/-- The digits of a number are read back if the number is within the limit. -/
theorem readDigits_toDigits {limit number : Nat} (bounded : number ≤ limit)
    (overflow : NumberFault) :
    readDigits limit overflow 0 (Nat.toDigits 10 number) = .ok number := by
  have value : Nat.ofDigitChars 10 (Nat.toDigits 10 number) 0 = number :=
    Nat.ofDigitChars_ten_toDigits
  have all : ∀ digit ∈ Nat.toDigits 10 number, digit.isDigit = true := fun _ =>
    Nat.isDigit_of_mem_toDigits (by decide) (by decide)
  rw [readDigits_of_le all overflow (by rwa [value]), value]

/-- A number has a first digit. -/
theorem exists_toDigits_eq_cons (number : Nat) :
    ∃ first others, Nat.toDigits 10 number = first :: others ∧ first.isDigit = true := by
  obtain ⟨first, others, digits⟩ :=
    List.exists_cons_of_ne_nil (Nat.toDigits_ne_nil (n := number) (b := 10))
  refine ⟨first, others, digits, ?_⟩
  exact Nat.isDigit_of_mem_toDigits (by decide) (by decide) (digits ▸ List.mem_cons_self)

/-- A digit is no sign. -/
theorem ne_sign_of_isDigit {character : Char} (digit : character.isDigit = true) :
    character ≠ '-' ∧ character ≠ '+' := by
  constructor
  · rintro rfl
    exact absurd digit (by decide)
  · rintro rfl
    exact absurd digit (by decide)

/-! ## Signed integers -/

theorem toList_repr_of_nonneg {value : Int} (natural : 0 ≤ value) :
    value.repr.toList = Nat.toDigits 10 value.toNat := by
  rw [Int.repr_eq_if, if_pos natural, Nat.toList_repr]

theorem toList_repr_of_neg {value : Int} (negative : value < 0) :
    value.repr.toList = '-' :: Nat.toDigits 10 (-value).toNat := by
  rw [Int.repr_eq_if, if_neg (Int.not_le.mpr negative), String.toList_append, Nat.toList_repr]
  rfl

/-- Digits without a sign are read as a number that is not negative. -/
theorem readInt64_toDigits {number : Nat} (bounded : number < int64Bound) :
    readInt64 (Nat.toDigits 10 number) = .ok (Int64.ofNat number) := by
  have read := readDigits_toDigits (Nat.le_sub_one_of_lt bounded) .tooLarge
  obtain ⟨first, others, digits, digit⟩ := exists_toDigits_eq_cons number
  obtain ⟨notMinus, notPlus⟩ := ne_sign_of_isDigit digit
  rw [digits] at read ⊢
  rw [readInt64, read]
  · rfl
  · exact List.cons_ne_nil _ _
  · intro same
    exact notMinus (List.cons.inj same).1
  · intro same
    exact notPlus (List.cons.inj same).1
  · intro _ same
    exact notMinus (List.cons.inj same).1
  · intro _ same
    exact notPlus (List.cons.inj same).1

/-- Digits behind a minus sign are read as the negative number. -/
theorem readInt64_minus_toDigits {number : Nat} (bounded : number ≤ int64Bound) :
    readInt64 ('-' :: Nat.toDigits 10 number) = .ok (Int64.ofInt (-number)) := by
  have read := readDigits_toDigits bounded .tooSmall
  rw [readInt64, read]
  · rfl
  · exact Nat.toDigits_ne_nil

/-- **A signed 64-bit integer is read back from its text.** -/
theorem readInt64_writeInt64 (number : Int64) :
    readInt64 (writeInt64 number).toList = .ok number := by
  have least : -(int64Bound : Int) ≤ number.toInt := number.le_toInt
  have greatest : number.toInt < int64Bound := number.toInt_lt
  rw [writeInt64]
  by_cases natural : 0 ≤ number.toInt
  · rw [toList_repr_of_nonneg natural, readInt64_toDigits (by omega), ← Int64.ofInt_eq_ofNat,
      Int.toNat_of_nonneg natural, Int64.ofInt_toInt]
  · rw [toList_repr_of_neg (by omega), readInt64_minus_toDigits (by omega),
      Int.toNat_of_nonneg (by omega), Int.neg_neg, Int64.ofInt_toInt]

end TiltMenu.Text
