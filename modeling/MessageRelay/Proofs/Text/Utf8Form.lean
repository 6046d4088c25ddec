import MessageRelay.Text.Utf8

/-!
# Byte strings that are text

Byte strings that are the UTF-8 form of some text: they can be joined, and plain ASCII is among
them. The form of a text is put together from those of its characters, each of which is a single
ASCII byte or has no ASCII byte in it; so the bytes in front of the first zero byte of a text are
a text again (`utf8_beforeZero`).
-/

set_option autoImplicit false

namespace MessageRelay.Text

/-- Whether a byte string is the UTF-8 form of a text. -/
def IsText (bytes : Bytes) : Prop :=
  ∃ text, bytes = utf8 text

/-- Valid text is read as a text. -/
theorem IsText.isSome {bytes : Bytes} (h : IsText bytes) : (ofUtf8 bytes).isSome = true := by
  obtain ⟨text, rfl⟩ := h
  rw [ofUtf8_utf8]
  rfl

/-- The bytes of a list of characters are the encodings of the characters in a row. -/
theorem utf8_ofList (cs : List Char) :
    utf8 (String.ofList cs) = cs.flatMap String.utf8EncodeChar := by
  simp only [utf8, String.toUTF8_eq_toByteArray, String.toByteArray_ofList, List.utf8Encode,
    List.data_toByteArray]

/-- The bytes of a text are the encodings of its characters in a row. -/
theorem utf8_eq_flatMap (text : String) :
    utf8 text = text.toList.flatMap String.utf8EncodeChar := by
  rw [← utf8_ofList, String.ofList_toList]

/-- Only the empty text has no bytes. -/
theorem length_utf8_eq_zero_iff {text : String} : (utf8 text).length = 0 ↔ text = "" := by
  rw [List.length_eq_zero_iff]
  exact ⟨fun empty => utf8_injective empty, fun empty => empty ▸ rfl⟩

/-- The encodings of characters in a row are valid text. -/
theorem isText_flatMap (cs : List Char) : IsText (cs.flatMap String.utf8EncodeChar) :=
  ⟨String.ofList cs, (utf8_ofList cs).symm⟩

/-- No bytes are valid text. -/
theorem isText_nil : IsText [] :=
  isText_flatMap []

/-- Valid text behind valid text is valid text. -/
theorem IsText.append {a b : Bytes} (ha : IsText a) (hb : IsText b) : IsText (a ++ b) := by
  obtain ⟨s, rfl⟩ := ha
  obtain ⟨t, rfl⟩ := hb
  rw [utf8_eq_flatMap, utf8_eq_flatMap, ← List.flatMap_append]
  exact isText_flatMap _

/-- What is made of items in a row is valid text if each part of it is. -/
theorem isText_flatMap_of {α : Type} {f : α → Bytes} {items : List α}
    (h : ∀ item ∈ items, IsText (f item)) : IsText (items.flatMap f) := by
  induction items with
  | nil => exact isText_nil
  | cons item items ih =>
    rw [List.flatMap_cons]
    exact (h item List.mem_cons_self).append
      (ih fun other ho => h other (List.mem_cons_of_mem item ho))

/-- A byte of ASCII is valid text. -/
theorem isText_ascii_byte {b : UInt8} (h : b.toNat < 128) : IsText [b] := by
  have size : (Char.ofNat b.toNat).utf8Size = 1 := by
    have all : ∀ k : Fin 128, (Char.ofNat k).utf8Size = 1 := by decide
    exact all ⟨b.toNat, h⟩
  have value : (Char.ofNat b.toNat).val.toUInt8 = b := by
    have all : ∀ k : Fin 128, (Char.ofNat k).val.toUInt8 = UInt8.ofNat k := by decide
    rw [all ⟨b.toNat, h⟩]
    exact UInt8.ofNat_toNat
  have encoded := isText_flatMap [Char.ofNat b.toNat]
  rw [List.flatMap_singleton, String.utf8EncodeChar_eq_singleton size, value] at encoded
  exact encoded

/-- Bytes of ASCII are valid text. -/
theorem isText_ascii {bytes : Bytes} (h : ∀ b ∈ bytes, b.toNat < 128) : IsText bytes := by
  induction bytes with
  | nil => exact isText_nil
  | cons b bytes ih =>
    exact (isText_ascii_byte (h b List.mem_cons_self)).append
      (ih fun c hc => h c (List.mem_cons_of_mem b hc))

/-- Setting bits makes no number smaller. -/
theorem toNat_or_ge (a b : UInt8) : b.toNat ≤ (a ||| b).toNat := by
  rw [UInt8.toNat_or]
  exact Nat.right_le_or

/-- The form of a character is one ASCII byte or has none. -/
theorem utf8EncodeChar_cases (c : Char) :
    (∃ b : UInt8, String.utf8EncodeChar c = [b] ∧ b.toNat < 128) ∨
      ∀ b ∈ String.utf8EncodeChar c, 128 ≤ b.toNat := by
  have high : ∀ a b : UInt8, 128 ≤ b.toNat → 128 ≤ (a ||| b).toNat := by
    intro a b h
    exact Nat.le_trans h (toNat_or_ge a b)
  obtain h | h | h | h := c.utf8Size_eq
  · left
    refine ⟨_, String.utf8EncodeChar_eq_singleton h, ?_⟩
    have bound : c.val.toNat < 128 := by
      have hle := UInt32.le_iff_toNat_le.1 (Char.utf8Size_eq_one_iff.1 h)
      have top : (127 : UInt32).toNat = 127 := rfl
      omega
    rw [UInt32.toNat_toUInt8]
    omega
  · right
    rw [String.utf8EncodeChar_eq_cons_cons h]
    simp only [List.mem_cons, List.not_mem_nil, or_false, forall_eq_or_imp, forall_eq]
    exact ⟨high _ _ (by decide), high _ _ (by decide)⟩
  · right
    rw [String.utf8EncodeChar_eq_cons_cons_cons h]
    simp only [List.mem_cons, List.not_mem_nil, or_false, forall_eq_or_imp, forall_eq]
    exact ⟨high _ _ (by decide), high _ _ (by decide), high _ _ (by decide)⟩
  · right
    rw [String.utf8EncodeChar_eq_cons_cons_cons_cons h]
    simp only [List.mem_cons, List.not_mem_nil, or_false, forall_eq_or_imp, forall_eq]
    exact ⟨high _ _ (by decide), high _ _ (by decide), high _ _ (by decide), high _ _ (by decide)⟩

/-- The zero character is the only one with a zero byte in its form. -/
theorem zero_mem_utf8EncodeChar_iff {c : Char} :
    (0 : UInt8) ∈ String.utf8EncodeChar c ↔ c = '\x00' := by
  constructor
  · intro zero
    obtain ⟨b, form, -⟩ | high := utf8EncodeChar_cases c
    · rw [form, List.mem_singleton] at zero
      have same : utf8 (String.ofList [c]) = utf8 (String.ofList ['\x00']) := by
        rw [utf8_ofList, utf8_ofList, List.flatMap_singleton, form, ← zero]
        decide
      have chars := congrArg String.toList (utf8_injective same)
      rw [String.toList_ofList, String.toList_ofList] at chars
      exact List.head_eq_of_cons_eq chars
    · exact absurd (high 0 zero) (by decide)
  · rintro rfl
    decide

/-- The bytes of a text have a zero among them exactly if its characters do. -/
theorem zero_mem_utf8_iff {cs : List Char} : 0 ∈ utf8 (String.ofList cs) ↔ '\x00' ∈ cs := by
  rw [utf8_ofList, List.mem_flatMap]
  constructor
  · rintro ⟨c, listed, zero⟩
    exact zero_mem_utf8EncodeChar_iff.1 zero ▸ listed
  · intro listed
    exact ⟨_, listed, zero_mem_utf8EncodeChar_iff.2 rfl⟩

/-- An ASCII text has as many bytes as characters. -/
theorem length_utf8_of_ascii {cs : List Char} (h : ∀ c ∈ cs, c.val ≤ 127) :
    (utf8 (String.ofList cs)).length = cs.length := by
  have single : ∀ c ∈ cs, (String.utf8EncodeChar c).length = 1 := by
    intro c listed
    rw [String.utf8EncodeChar_eq_singleton (Char.utf8Size_eq_one_iff.2 (h c listed))]
    rfl
  rw [utf8_ofList, List.length_flatMap, List.map_congr_left single, List.map_const',
    List.sum_replicate_nat, Nat.mul_one]

/-- The text in front of the first zero character. -/
def beforeZero (text : String) : String :=
  String.ofList (text.toList.takeWhile (· ≠ '\x00'))

/-- Cutting a text at its first zero character cuts its bytes at their first zero byte. -/
theorem utf8_beforeZero (text : String) :
    utf8 (beforeZero text) = (utf8 text).takeWhile (· ≠ 0) := by
  rw [beforeZero, utf8_ofList, utf8_eq_flatMap]
  induction text.toList with
  | nil => rfl
  | cons c cs ih =>
    by_cases zero : c = '\x00'
    · subst zero
      rfl
    · have plain : ∀ b ∈ String.utf8EncodeChar c, decide (b ≠ 0) = true := by
        intro b mem
        exact decide_eq_true fun h => zero (zero_mem_utf8EncodeChar_iff.1 (h ▸ mem))
      have kept : (c :: cs).takeWhile (· ≠ '\x00') = c :: cs.takeWhile (· ≠ '\x00') :=
        List.takeWhile_cons_of_pos (decide_eq_true zero)
      rw [kept, List.flatMap_cons, List.flatMap_cons, List.takeWhile_append_of_pos plain, ih]

/-- What stands before the first zero is no longer than the text. -/
theorem length_utf8_beforeZero_le (text : String) :
    (utf8 (beforeZero text)).length ≤ (utf8 text).length := by
  rw [utf8_beforeZero]
  exact (List.takeWhile_prefix _).length_le

/-- A text without a zero byte is in front of its first zero character as a whole. -/
theorem beforeZero_of_plain {text : String} (plain : 0 ∉ utf8 text) : beforeZero text = text := by
  have all : ∀ b ∈ utf8 text, decide (b ≠ 0) = true := by
    intro b mem
    exact decide_eq_true fun h => plain (h ▸ mem)
  have whole : (utf8 text ++ []).takeWhile (· ≠ 0) = utf8 text ++ [] :=
    List.takeWhile_append_of_pos all
  rw [List.append_nil, ← utf8_beforeZero] at whole
  exact utf8_injective whole

/-- A text is all before its first zero exactly if it has no zero byte. -/
theorem beforeZero_eq_self_iff {text : String} : beforeZero text = text ↔ 0 ∉ utf8 text := by
  refine ⟨fun whole zero => ?_, beforeZero_of_plain⟩
  rw [← whole, utf8_beforeZero] at zero
  simpa using List.all_eq_true.1 List.all_takeWhile 0 zero

end MessageRelay.Text
