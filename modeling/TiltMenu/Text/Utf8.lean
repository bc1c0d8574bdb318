/-!
# Text as bytes

The UTF-8 form of a text and the reading of bytes as UTF-8. Reading undoes
writing (`decode?_encode`).
-/

set_option autoImplicit false

namespace TiltMenu.Text

/-- The UTF-8 bytes of a text. -/
def encode (text : String) : List UInt8 := text.toUTF8.data.toList

/-- The text that the bytes spell, or `none` if they are not well-formed UTF-8. -/
def decode? (bytes : List UInt8) : Option String := String.fromUTF8? ⟨bytes.toArray⟩

/-- Reading the UTF-8 form of a text gives the text back. -/
theorem decode?_encode (text : String) : decode? (encode text) = some text := by
  have whole : (⟨(encode text).toArray⟩ : ByteArray) = text.toByteArray := by
    simp [encode]
  simpa [decode?, whole, String.fromUTF8?, String.fromUTF8] using text.isValidUTF8

end TiltMenu.Text
