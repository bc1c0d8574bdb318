/-!
# Blank characters

The characters with the Unicode property `White_Space`, and the trimming that
goes by them. A name or a line is blank when it has no other character.
-/

set_option autoImplicit false

namespace TiltMenu.Text

/-- The characters with the Unicode property `White_Space`. -/
def isBlank (character : Char) : Bool :=
  let point := character.toNat
  (0x09 ≤ point && point ≤ 0x0D) || point == 0x20 || point == 0x85 || point == 0xA0
    || point == 0x1680 || (0x2000 ≤ point && point ≤ 0x200A) || point == 0x2028
    || point == 0x2029 || point == 0x202F || point == 0x205F || point == 0x3000

/-- The text from its first character that is not blank. -/
def trimStart (text : List Char) : List Char := text.dropWhile isBlank

/-- The text up to its last character that is not blank. -/
def trimEnd (text : List Char) : List Char := (text.reverse.dropWhile isBlank).reverse

/-- A text without any character that is not blank. -/
def isBlankText (text : List Char) : Bool := text.all isBlank

end TiltMenu.Text
