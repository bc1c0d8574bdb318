import TiltMenu.Json.Reader
import TiltMenu.Json.Writer
import TiltMenu.Proofs.Text.Number

/-!
# Strings and numbers read back

A string that is written is read back whatever follows its closing quote
(`readString_writeString`). Each character is read as one part of a string: itself, or the number
of its code unit if it is a control character without an escape of its own (`pieceOf`). Such a unit
is half of no surrogate pair, so it spells the character again.

An integer is written with its fewest digits and no plus sign. It is read back if what follows
does not make the number longer (`EndsNumber`, `readNumber_repr`).
-/

set_option autoImplicit false

namespace TiltMenu.Json

/-! ## Strings -/

/-- The part of a string as which a character is written and read. -/
def pieceOf (character : Char) : Piece :=
  if character.toNat < 32 ∧ character ∉ ['\x08', '\t', '\n', '\x0c', '\r'] then
    .unit character.toNat
  else .char character

/-- Four hexadecimal digits are read back. -/
theorem readBase?_writeHex {value : Nat} (bound : value < 65536) :
    Text.readBase? 16 0
        [Nat.digitChar (value / 16 / 16 / 16 % 16), Nat.digitChar (value / 16 / 16 % 16),
          Nat.digitChar (value / 16 % 16), Nat.digitChar (value % 16)] = some value := by
  have digit : ∀ number : Nat, Text.hexValue? (Nat.digitChar (number % 16)) = some (number % 16) :=
    fun number => Text.hexValue?_digitChar (Nat.mod_lt number (by decide))
  have small : ∀ number : Nat, number % 16 < 16 := fun number => Nat.mod_lt number (by decide)
  simp only [Text.readBase?, digit, small, if_true, Option.some.injEq]
  omega

/-- A short escape is read as the character that it stands for. -/
theorem readPieces_escaped {escaped character : Char}
    (known : escapedChar? escaped = some character) (rest : List Char) :
    readPieces ('\\' :: escaped :: rest) =
      (readPieces rest).map fun read => (.char character :: read.1, read.2) := by
  have notUnit : escaped ≠ 'u' := by
    rintro rfl
    cases known
  rw [readPieces, known]
  · cases readPieces rest <;> rfl
  · intro _ _ _ _ _ same _
    exact notUnit same

/-- An escape by a number is read as that code unit. -/
theorem readPieces_unit {code : Nat} (bound : code < 65536) (rest : List Char) :
    readPieces ('\\' :: 'u' :: Text.writeHex code 4 ++ rest) =
      (readPieces rest).map fun read => (.unit code :: read.1, read.2) := by
  have digits := readBase?_writeHex bound
  show readPieces ('\\' :: 'u' :: _ :: _ :: _ :: _ :: rest) = _
  rw [readPieces, digits]
  cases readPieces rest <;> rfl

/-- A character that is not escaped is read as itself. -/
theorem readPieces_plain {character : Char} (printable : ¬character.toNat < 32)
    (notQuote : character ≠ '"') (notBackslash : character ≠ '\\') (rest : List Char) :
    readPieces (character :: rest) =
      (readPieces rest).map fun read => (.char character :: read.1, read.2) := by
  rw [readPieces]
  · rw [if_neg (by simp [printable, notBackslash])]
    cases readPieces rest <;> rfl
  · exact notQuote
  · simp [notBackslash]
  · simp [notBackslash]

/-- **A character that is written is read as its part.** -/
theorem readPieces_writeChar (character : Char) (rest : List Char) :
    readPieces (writeChar character ++ rest) =
      (readPieces rest).map fun read => (pieceOf character :: read.1, read.2) := by
  unfold writeChar
  split
  · exact readPieces_escaped rfl rest
  · exact readPieces_escaped rfl rest
  · exact readPieces_escaped rfl rest
  · exact readPieces_escaped rfl rest
  · exact readPieces_escaped rfl rest
  · exact readPieces_escaped rfl rest
  · exact readPieces_escaped rfl rest
  · next notQuote notBackslash notBackspace notTab notNewline notFormFeed notReturn =>
    split
    · next control =>
      have own : pieceOf character = .unit character.toNat := by
        rw [pieceOf, if_pos]
        exact ⟨control, by simpa using ⟨notBackspace, notTab, notNewline, notFormFeed, notReturn⟩⟩
      rw [own]
      exact readPieces_unit (by omega) rest
    · next printable =>
      rw [pieceOf, if_neg (by simp [printable])]
      exact readPieces_plain printable notQuote notBackslash rest

/-- A text that is written in quotes is read as the parts of its characters. -/
theorem readPieces_flatMap_writeChar (text rest : List Char) :
    readPieces (text.flatMap writeChar ++ '"' :: rest) = some (text.map pieceOf, rest) := by
  induction text with
  | nil => rfl
  | cons first others ih =>
    rw [List.flatMap_cons, List.append_assoc, readPieces_writeChar, ih]
    rfl

/-- A code unit below the surrogates spells its character. -/
theorem spell?_unit_cons {code : Nat} (small : code < 0xD800) (rest : List Piece) :
    spell? (.unit code :: rest) = (spell? rest).map (Char.ofNat code :: ·) := by
  cases rest with
  | nil => simp [spell?, show ¬55296 ≤ code by omega]
  | cons next others =>
    cases next with
    | char character => simp [spell?, show ¬55296 ≤ code by omega]
    | unit low => simp [spell?, show ¬55296 ≤ code by omega, show ¬56320 ≤ code by omega]

/-- **The parts of a text spell it.** -/
theorem spell?_map_pieceOf (text : List Char) : spell? (text.map pieceOf) = some text := by
  induction text with
  | nil => rfl
  | cons first rest ih =>
    rw [List.map_cons, pieceOf]
    split
    · next control =>
      rw [spell?_unit_cons (by omega), ih, Char.ofNat_toNat]
      rfl
    · rw [spell?, ih]
      rfl

/-- **A string that is written is read back.** -/
theorem readString_writeString (content : String) (rest : List Char) :
    readString (content.toList.flatMap writeChar ++ '"' :: rest) = some (some content, rest) := by
  rw [readString, readPieces_flatMap_writeChar, Option.map_some, spell?_map_pieceOf, Option.map_some,
    String.ofList_toList]

/-! ## Numbers -/

/-- The text does not make a number before it longer. -/
def EndsNumber (rest : List Char) : Prop :=
  ∀ character ∈ rest.head?, character.isDigit = false ∧ character ∉ ['.', 'e', 'E']

theorem endsNumber_nil : EndsNumber [] := by
  intro character member
  cases member

theorem endsNumber_cons {character : Char} (notDigit : character.isDigit = false)
    (other : character ∉ ['.', 'e', 'E']) (rest : List Char) : EndsNumber (character :: rest) := by
  intro first member
  cases member
  exact ⟨notDigit, other⟩

/-- Digits are read up to where the number ends. -/
theorem readDigits_append {digits rest : List Char} (all : ∀ digit ∈ digits, digit.isDigit = true)
    (nonempty : digits ≠ []) (ends : EndsNumber rest) :
    readDigits (digits ++ rest) = some (digits, rest) := by
  have stop : rest.takeWhile Char.isDigit = [] ∧ rest.dropWhile Char.isDigit = rest := by
    cases rest with
    | nil => exact ⟨rfl, rfl⟩
    | cons first others =>
      have notDigit := (ends first rfl).1
      exact ⟨List.takeWhile_cons_of_neg (by simp [notDigit]),
        List.dropWhile_cons_of_neg (by simp [notDigit])⟩
  have taken : (digits ++ rest).takeWhile Char.isDigit = digits := by
    rw [List.takeWhile_append_of_pos all, stop.1, List.append_nil]
  have dropped : (digits ++ rest).dropWhile Char.isDigit = rest := by
    rw [List.dropWhile_append_of_pos all, stop.2]
  rw [readDigits, taken, dropped]
  cases digits with
  | nil => exact absurd rfl nonempty
  | cons first others => rfl

theorem skipFraction_of_ends {rest : List Char} (ends : EndsNumber rest) :
    skipFraction rest = some (false, rest) := by
  unfold skipFraction
  split
  · exact absurd (ends '.' rfl).2 (by decide)
  · rfl

theorem skipExponent_of_ends {rest : List Char} (ends : EndsNumber rest) :
    skipExponent rest = some (false, rest) := by
  unfold skipExponent
  split
  · exact absurd (ends 'e' rfl).2 (by decide)
  · exact absurd (ends 'E' rfl).2 (by decide)
  · rfl

/-- Only zero is written with a zero in front. -/
theorem head?_toDigits {number : Nat} (positive : 0 < number) :
    (Nat.toDigits 10 number).head? ≠ some '0' := by
  induction number using Nat.strongRecOn with
  | ind number ih =>
    by_cases small : number < 10
    · rw [Nat.toDigits_of_lt_base small]
      have digit : ∀ value < 10, 0 < value → [Nat.digitChar value].head? ≠ some '0' := by decide
      exact digit number small positive
    · have front := ih (number / 10) (by omega) (by omega)
      obtain ⟨first, others, digits⟩ :=
        List.exists_cons_of_ne_nil (Nat.toDigits_ne_nil (n := number / 10) (b := 10))
      rw [Nat.toDigits_of_base_le (by decide) (by omega), digits]
      rw [digits] at front
      exact front

/-- The digits of a number are read back. A minus sign may only stand before a number that is not
zero. -/
theorem readUnsigned_toDigits (negative : Bool) (number : Nat) {rest : List Char}
    (ends : EndsNumber rest) (signed : negative = true → number ≠ 0) :
    readUnsigned negative (Nat.toDigits 10 number ++ rest) =
      some (.integer (if negative then -number else number), rest) := by
  have all : ∀ digit ∈ Nat.toDigits 10 number, digit.isDigit = true := fun _ =>
    Nat.isDigit_of_mem_toDigits (by decide) (by decide)
  have short : ¬((Nat.toDigits 10 number).head? = some '0' ∧
      1 < (Nat.toDigits 10 number).length) := by
    rintro ⟨leading, long⟩
    by_cases zero : number = 0
    · subst zero
      simp at long
    · exact head?_toDigits (Nat.pos_of_ne_zero zero) leading
  simp only [readUnsigned, readDigits_append all Nat.toDigits_ne_nil ends,
    skipFraction_of_ends ends, skipExponent_of_ends ends, Nat.ofDigitChars_ten_toDigits,
    Option.bind_eq_bind, Option.bind_some, if_neg short]
  simpa using signed

/-- An unsigned number has no minus sign. -/
theorem readNumber_toDigits (number : Nat) {rest : List Char} (ends : EndsNumber rest) :
    readNumber (Nat.toDigits 10 number ++ rest) = some (.integer number, rest) := by
  have read := readUnsigned_toDigits false number ends (by simp)
  rw [readNumber]
  · exact read
  · intro later same
    obtain ⟨first, others, digits, digit⟩ := Text.exists_toDigits_eq_cons number
    rw [digits] at same
    exact (Text.ne_sign_of_isDigit digit).1 (List.cons.inj same).1

/-- **An integer that is written is read back.** -/
theorem readNumber_repr (value : Int) {rest : List Char} (ends : EndsNumber rest) :
    readNumber (value.repr.toList ++ rest) = some (.integer value, rest) := by
  by_cases natural : 0 ≤ value
  · rw [Text.toList_repr_of_nonneg natural, readNumber_toDigits value.toNat ends,
      Int.toNat_of_nonneg natural]
  · rw [Text.toList_repr_of_neg (by omega)]
    show readUnsigned true (Nat.toDigits 10 (-value).toNat ++ rest) = _
    rw [readUnsigned_toDigits true _ ends (by omega), if_pos rfl, Int.toNat_of_nonneg (by omega),
      Int.neg_neg]

end TiltMenu.Json
