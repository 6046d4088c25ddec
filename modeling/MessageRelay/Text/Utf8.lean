import MessageRelay.Bytes

/-!
# Text as bytes

The UTF-8 form of a text and the reading of it, which succeeds on well-formed UTF-8 alone.
`ofUtf8_utf8` and `utf8_of_ofUtf8` say that the two undo each other, so a text has one written
form, and `ofUtf8_isSome_iff` says which byte strings are texts.
-/

set_option autoImplicit false

namespace MessageRelay.Text

/-- The UTF-8 bytes of a text. -/
def utf8 (text : String) : Bytes :=
  text.toUTF8.data.toList

/-- The text that the bytes are the UTF-8 form of, if they are well formed. -/
def ofUtf8 (bytes : Bytes) : Option String :=
  if h : (ByteArray.mk bytes.toArray).IsValidUTF8 then
    some (String.ofByteArray (ByteArray.mk bytes.toArray) h)
  else
    none

/-- A text is read back from its bytes. -/
theorem ofUtf8_utf8 (text : String) : ofUtf8 (utf8 text) = some text := by
  have h : ByteArray.mk (utf8 text).toArray = text.toByteArray := by
    simp [utf8, String.toUTF8]
  simp only [ofUtf8, h, text.isValidUTF8, dif_pos]

/-- The bytes that a text is read from are the bytes of this text. -/
theorem utf8_of_ofUtf8 {bytes : Bytes} {text : String} (h : ofUtf8 bytes = some text) :
    bytes = utf8 text := by
  unfold ofUtf8 at h
  split at h
  · obtain rfl := Option.some.inj h
    simp [utf8, String.toUTF8]
  · simp at h

/-- A text is read exactly from the byte strings that are valid UTF-8. -/
theorem ofUtf8_isSome_iff {bytes : Bytes} :
    (ofUtf8 bytes).isSome ↔ (ByteArray.mk bytes.toArray).IsValidUTF8 := by
  unfold ofUtf8
  split <;> simp [*]

/-- Two texts with the same bytes are the same text. -/
theorem utf8_injective {a b : String} (h : utf8 a = utf8 b) : a = b := by
  have := ofUtf8_utf8 b
  rw [← h, ofUtf8_utf8] at this
  exact Option.some.inj this

/-- Whether a byte string comes before another or equals it, comparing byte by byte. -/
def bytesLe : Bytes → Bytes → Bool
  | [], _ => true
  | _ :: _, [] => false
  | a :: as, b :: bs => if a == b then bytesLe as bs else a < b

/-- Texts in the order of their bytes. -/
def le (a b : String) : Bool :=
  bytesLe (utf8 a) (utf8 b)

end MessageRelay.Text
