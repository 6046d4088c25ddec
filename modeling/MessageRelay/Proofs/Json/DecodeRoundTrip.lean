import MessageRelay.Proofs.Json.RoundTrip
import MessageRelay.Proofs.Text.Utf8Form

/-!
# Values back out of JSON

Texts, natural numbers, byte strings and records are found again in the JSON values made of them,
and what is written of such values is the UTF-8 form of a text (`WritesText`).
-/

set_option autoImplicit false

namespace MessageRelay

/-- A function that finds again what each item was made from finds all of them. -/
theorem mapM_map_eq_some {α β γ : Type} {f : β → Option γ} {make : α → β} {g : α → γ}
    {items : List α} (h : ∀ item ∈ items, f (make item) = some (g item)) :
    (items.map make).mapM f = some (items.map g) := by
  induction items with
  | nil => rfl
  | cons item items ih =>
    rw [List.map_cons, List.mapM_cons, h item List.mem_cons_self,
      ih fun other ho => h other (List.mem_cons_of_mem item ho)]
    rfl

/-- Items that are each read back from what is made of them are read back as a list. -/
theorem mapM_map_eq_self {α β : Type} (f : β → Option α) (make : α → β) (items : List α)
    (h : ∀ item ∈ items, f (make item) = some item) : (items.map make).mapM f = some items := by
  rw [mapM_map_eq_some (g := id) h, List.map_id]

/-! ## Texts -/

namespace StringPiece

/-- A byte that needs no escape is written as itself. -/
theorem ofByte_eq_byte {b : UInt8} (h : needsEscape b = false) : ofByte b = .byte b := by
  simp [ofByte, h]

/-- Only bytes of ASCII are escaped. -/
theorem toNat_of_needsEscape {b : UInt8} (h : needsEscape b = true) : b.toNat < 128 := by
  simp only [needsEscape, Bool.or_eq_true, decide_eq_true_eq, beq_iff_eq] at h
  obtain (h | rfl) | rfl := h
  · have bound := UInt8.lt_iff_toNat_lt.1 h
    have top : (0x20 : UInt8).toNat = 32 := rfl
    omega
  · decide
  · decide

/-- A unit that a byte is written as is no half of a pair. -/
theorem not_surrogate {b : UInt8} : isHigh b.toUInt16 = false ∧ isLow b.toUInt16 = false := by
  have bound := b.toNat_lt
  have same : b.toUInt16.toNat = b.toNat := UInt8.toNat_toUInt16 b
  simp only [isHigh, isLow, Bool.and_eq_false_iff, decide_eq_false_iff_not,
    UInt16.le_iff_toNat_le, same]
  have high : (0xD800 : UInt16).toNat = 55296 := rfl
  have low : (0xDC00 : UInt16).toNat = 56320 := rfl
  omega

/-- An escaped byte is the encoding of its own number. -/
theorem codePointBytes_of_needsEscape {b : UInt8} (h : needsEscape b = true) :
    codePointBytes b.toUInt16.toNat = [b] := by
  have bound := toNat_of_needsEscape h
  rw [UInt8.toNat_toUInt16, codePointBytes, if_pos (by omega), UInt8.ofNat_toNat]

/-- A unit that opens no pair stands for a character of its own. -/
theorem bytes_unit_cons {u : UInt16} (pieces : List StringPiece) (h : isHigh u = false) :
    bytes (.unit u :: pieces) = codePointBytes u.toNat ++ bytes pieces := by
  cases pieces with
  | nil => rfl
  | cons piece pieces =>
    cases piece with
    | byte b => rfl
    | unit v => simp [bytes, h]

/-- A unit outside the surrogates leaves it to the rest whether all pairs are complete. -/
theorem paired_unit_cons {u : UInt16} (pieces : List StringPiece) (hh : isHigh u = false)
    (hl : isLow u = false) : paired (.unit u :: pieces) = paired pieces := by
  cases pieces with
  | nil => simp [paired, hh, hl]
  | cons piece pieces =>
    cases piece with
    | byte b => simp [paired, hh, hl]
    | unit v => simp [paired, hh, hl]

/-- The pieces of a text stand for the bytes of this text. -/
theorem bytes_map_ofByte (text : Bytes) : bytes (text.map ofByte) = text := by
  induction text with
  | nil => rfl
  | cons b text ih =>
    rw [List.map_cons]
    cases h : needsEscape b with
    | false => rw [ofByte_eq_byte h, bytes, ih]
    | true =>
      rw [ofByte, if_pos h, bytes_unit_cons _ not_surrogate.1, codePointBytes_of_needsEscape h, ih]
      rfl

/-- The pieces of a text leave no pair incomplete. -/
theorem paired_map_ofByte (text : Bytes) : paired (text.map ofByte) = true := by
  induction text with
  | nil => rfl
  | cons b text ih =>
    rw [List.map_cons]
    cases h : needsEscape b with
    | false => rw [ofByte_eq_byte h, paired, ih]
    | true => rw [ofByte, if_pos h, paired_unit_cons _ not_surrogate.1 not_surrogate.2, ih]

/-- The pieces of a text have no control character as it is. -/
theorem clean_map_ofByte (text : Bytes) : clean (text.map ofByte) = true := by
  rw [clean, List.all_eq_true]
  intro piece hp
  obtain ⟨b, -, rfl⟩ := List.mem_map.1 hp
  cases h : needsEscape b with
  | true => rw [ofByte, if_pos h]
  | false =>
    rw [ofByte_eq_byte h]
    simp only [needsEscape, Bool.or_eq_false_iff, decide_eq_false_iff_not] at h
    simpa using h.1.1

/-- A text comes back from its pieces. -/
theorem asText_ofText (text : String) : asText (ofText text) = some text := by
  rw [asText, ofText, clean_map_ofByte, paired_map_ofByte, bytes_map_ofByte]
  exact Text.ofUtf8_utf8 text

end StringPiece

namespace Json

/-- A text is read back from its value. -/
theorem asText?_text (value : String) : (text value).asText? = some value :=
  StringPiece.asText_ofText value

/-- The name of a choice is read back from its value. -/
theorem asChoice?_text (value : String) : (text value).asChoice? = some value :=
  StringPiece.asText_ofText value

/-! ## Numbers and byte strings -/

/-- The bytes of the digits of a number are the characters of its digits. -/
theorem ofNat_digitsOf (n : Nat) :
    (digitsOf n).map (fun b => Char.ofNat b.toNat) = Nat.toDigits 10 n := by
  rw [digitsOf, List.map_map]
  refine (List.map_congr_left ?_).trans (List.map_id _)
  intro c hc
  have digit := Text.isDigit_of_mem_toDigits hc
  simp only [Text.isDigit, Bool.and_eq_true, decide_eq_true_eq] at digit
  show Char.ofNat (UInt8.ofNat c.toNat).toNat = c
  rw [UInt8.toNat_ofNat', Nat.mod_eq_of_lt (by omega), Char.ofNat_toNat]

/-- A number is read back from its value under any bound that it keeps. -/
theorem asNatural?_natural {n bound : Nat} (h : n ≤ bound) :
    (natural n).asNatural? bound = some n := by
  show (Text.digits? 10 ((digitsOf n).map fun b => Char.ofNat b.toNat)).filter (· ≤ bound) = _
  rw [ofNat_digitsOf, Text.digits?_toDigits]
  simp [h]

/-- A byte is read back from the value of its number. -/
theorem asByte?_natural (b : UInt8) :
    ((natural b.toNat).asNatural? 255).map UInt8.ofNat = some b := by
  have bound := b.toNat_lt
  rw [asNatural?_natural (by omega), Option.map_some, UInt8.ofNat_toNat]

/-- Bytes are read back one by one from the values of their numbers. -/
theorem mapM_byteArray (bytes : Bytes) :
    (bytes.map fun b => natural b.toNat).mapM (fun item => (item.asNatural? 255).map UInt8.ofNat)
      = some bytes :=
  mapM_map_eq_self _ _ bytes fun b _ => asByte?_natural b

/-- A byte string is read back from the array of its numbers. -/
theorem asBytes?_byteArray (bytes : Bytes) : (byteArray bytes).asBytes? = some bytes :=
  mapM_byteArray bytes

/-! ## Records -/

/-- A name that only one field has picks the value of this field and nothing else. -/
theorem pick_of_mem {fields : List (String × Json)} (distinct : (fields.map (·.1)).Nodup)
    {field : String × Json} (h : field ∈ fields) : pick field.1 fields = [field.2] := by
  induction fields with
  | nil => cases h
  | cons other fields ih =>
    rw [List.map_cons, List.nodup_cons] at distinct
    obtain ⟨fresh, distinct⟩ := distinct
    obtain rfl | h := List.mem_cons.1 h
    · have absent : fields.filter (fun other => other.1 == field.1) = [] := by
        rw [List.filter_eq_nil_iff]
        intro other ho same
        exact fresh (eq_of_beq same ▸ List.mem_map_of_mem ho)
      simp [pick, absent]
    · have differ : (other.1 == field.1) = false := by
        rw [beq_eq_false_iff_ne]
        intro same
        exact fresh (same ▸ List.mem_map_of_mem h)
      have rest := ih distinct h
      simp only [pick, List.filter_cons, differ] at rest ⊢
      exact rest

/-- The values of a record are found under the names of its fields. -/
theorem asRecord?_record {fields : List (String × Json)}
    (distinct : (fields.map (·.1)).Nodup) :
    (record fields).asRecord? (fields.map (·.1)) = some (fields.map (·.2)) := by
  have named : (fields.map fun field => (StringPiece.ofText field.1, field.2)).mapM
      (fun (field : List StringPiece × Json) =>
        (StringPiece.asText field.1).map fun text => (text, field.2)) = some fields := by
    apply mapM_map_eq_self
    intro field _
    simp [StringPiece.asText_ofText]
  have known : (fields.all fun field =>
      (fields.map (·.1)).contains field.1 || ignorable field.2) = true := by
    rw [List.all_eq_true]
    intro field hf
    have member : field.1 ∈ fields.map (·.1) := List.mem_map_of_mem hf
    rw [List.contains_iff_mem.2 member, Bool.true_or]
  unfold record asRecord?
  simp only
  rw [named]
  simp only [Option.bind_eq_bind, Option.bind_some]
  rw [if_pos known]
  apply mapM_map_eq_some
  intro field hf
  rw [pick_of_mem distinct hf]

end Json

/-! ## Written text -/

namespace StringPiece

open Text (IsText isText_ascii isText_flatMap isText_flatMap_of)

/-- An escape is written in ASCII. -/
theorem isText_written_unit (u : UInt16) : IsText (written (.unit u)) := by
  have digit : ∀ n, (UInt8.ofNat (Bytes.hexDigit (n % 16)).toNat).toNat < 128 := by
    intro n
    have all : ∀ k : Fin 16, (UInt8.ofNat (Bytes.hexDigit k).toNat).toNat < 128 := by decide
    exact all ⟨n % 16, Nat.mod_lt _ (by decide)⟩
  apply isText_ascii
  unfold written
  simp only
  repeat' split
  all_goals
    simp only [List.mem_cons, List.not_mem_nil, or_false, forall_eq_or_imp, forall_eq]
  all_goals first
    | decide
    | exact ⟨by decide, by decide, digit _, digit _, digit _, digit _⟩

/-- The bytes of a character are written as text, whether they are escaped or not. -/
theorem isText_flatMap_written_char (c : Char) :
    IsText ((String.utf8EncodeChar c).flatMap fun b => written (ofByte b)) := by
  have plain : ∀ {b : UInt8}, needsEscape b = false → written (ofByte b) = [b] := by
    intro b h
    rw [ofByte_eq_byte h]
    rfl
  obtain ⟨b, encoded, ascii⟩ | high := Text.utf8EncodeChar_cases c
  · rw [encoded, List.flatMap_singleton]
    cases h : needsEscape b with
    | false =>
      rw [plain h]
      exact Text.isText_ascii_byte ascii
    | true =>
      rw [ofByte, if_pos h]
      exact isText_written_unit _
  · have same : (String.utf8EncodeChar c).flatMap (fun b => written (ofByte b))
        = String.utf8EncodeChar c := by
      have each : ∀ b ∈ String.utf8EncodeChar c, written (ofByte b) = [b] := by
        intro b hb
        apply plain
        cases h : needsEscape b with
        | false => rfl
        | true =>
          have low := toNat_of_needsEscape h
          have top := high b hb
          omega
      rw [List.flatMap_def, List.map_congr_left each, ← List.flatMap_def]
      exact List.flatMap_singleton' _
    rw [same, ← List.flatMap_singleton String.utf8EncodeChar c]
    exact isText_flatMap [c]

/-- The pieces of a text are written as valid text, escapes included. -/
theorem isText_writtenAll_ofText (text : String) : IsText (writtenAll (ofText text)) := by
  have inside : IsText ((ofText text).flatMap written) := by
    rw [ofText, List.flatMap_map, Text.utf8_eq_flatMap, List.flatMap_assoc]
    exact isText_flatMap_of fun c _ => isText_flatMap_written_char c
  have quote : IsText [0x22] := Text.isText_ascii_byte (by decide)
  exact (quote.append inside).append quote

end StringPiece

namespace Json

open Text (IsText isText_ascii)

/-- What is written of a value is the form of a text. -/
def WritesText (layout : Layout) (value : Json) : Prop :=
  IsText (write layout value)

/-- A line break with its blanks is valid text. -/
theorem isText_lineBreak (layout : Layout) : IsText layout.lineBreak := by
  apply isText_ascii
  intro b hb
  cases layout with
  | compact => cases hb
  | indented level =>
    obtain rfl | hb := List.mem_cons.1 hb
    · decide
    · rw [List.eq_of_mem_replicate hb]
      decide

/-- What stands between a name and its value is valid text. -/
theorem isText_colon (layout : Layout) : IsText layout.colon := by
  cases layout with
  | compact =>
    show IsText [0x3A]
    exact isText_ascii (by simp)
  | indented level =>
    show IsText [0x3A, 0x20]
    exact isText_ascii (by simp)

/-- A byte of ASCII in front of valid text leaves it valid. -/
theorem isText_byte (b : UInt8) (h : b.toNat < 128) (bytes : Bytes) (ht : IsText bytes) :
    IsText (b :: bytes) :=
  (Text.isText_ascii_byte h).append ht

/-- A number is written as valid text. -/
theorem writesText_natural (layout : Layout) (n : Nat) : WritesText layout (natural n) := by
  rw [WritesText, natural, write]
  apply isText_ascii
  intro b hb
  have digit := isDigit_of_mem_digitsOf (n := n) hb
  simp only [isDigit, Bool.and_eq_true, decide_eq_true_eq, UInt8.le_iff_toNat_le] at digit
  have top : (0x39 : UInt8).toNat = 57 := rfl
  omega

/-- A text is written as valid text, between its quotes. -/
theorem writesText_text (layout : Layout) (value : String) : WritesText layout (text value) := by
  rw [WritesText, text, write]
  exact StringPiece.isText_writtenAll_ofText value

/-- The items behind the first one are written as valid text if each of them is. -/
theorem isText_writeItems {layout : Layout} {items : List Json}
    (h : ∀ item ∈ items, WritesText layout item) : IsText (writeItems layout items) := by
  induction items with
  | nil => exact Text.isText_nil
  | cons item items ih =>
    rw [writeItems]
    have rest := ih fun other ho => h other (List.mem_cons_of_mem item ho)
    have first : IsText (write layout item) := h item List.mem_cons_self
    exact isText_byte 0x2C (by decide) _ (((isText_lineBreak layout).append first).append rest)

/-- An array is written as valid text if each of its items is. -/
theorem writesText_array {layout : Layout} {items : List Json}
    (h : ∀ item ∈ items, WritesText layout.inner item) : WritesText layout (.array items) := by
  rw [WritesText]
  cases items with
  | nil =>
    rw [write]
    exact isText_ascii (by simp)
  | cons item items =>
    rw [write]
    have rest := isText_writeItems fun other ho => h other (List.mem_cons_of_mem item ho)
    have first : IsText (write layout.inner item) := h item List.mem_cons_self
    have close : IsText [0x5D] := isText_ascii (by simp)
    exact isText_byte 0x5B (by decide) _ (((((isText_lineBreak _).append first).append rest).append
      (isText_lineBreak layout)).append close)

/-- The fields behind the first one are written as valid text if the value of each of them is. -/
theorem isText_writeFields {layout : Layout} {fields : List (String × Json)}
    (h : ∀ field ∈ fields, WritesText layout field.2) :
    IsText (writeFields layout
      (fields.map fun field => (StringPiece.ofText field.1, field.2))) := by
  induction fields with
  | nil => exact Text.isText_nil
  | cons field fields ih =>
    rw [List.map_cons, writeFields]
    have rest := ih fun other ho => h other (List.mem_cons_of_mem field ho)
    have value : IsText (write layout field.2) := h field List.mem_cons_self
    have name := StringPiece.isText_writtenAll_ofText field.1
    exact isText_byte 0x2C (by decide) _ (((((isText_lineBreak layout).append name).append
      (isText_colon layout)).append value).append rest)

/-- A record is written as valid text if each of its values is. -/
theorem writesText_record {layout : Layout} {fields : List (String × Json)}
    (h : ∀ field ∈ fields, WritesText layout.inner field.2) :
    WritesText layout (record fields) := by
  rw [WritesText, record]
  cases fields with
  | nil =>
    rw [List.map_nil, write]
    exact isText_ascii (by simp)
  | cons field fields =>
    rw [List.map_cons, write]
    have rest := isText_writeFields fun other ho => h other (List.mem_cons_of_mem field ho)
    have value : IsText (write layout.inner field.2) := h field List.mem_cons_self
    have name := StringPiece.isText_writtenAll_ofText field.1
    have close : IsText [0x7D] := isText_ascii (by simp)
    exact isText_byte 0x7B (by decide) _ (((((((isText_lineBreak _).append name).append
      (isText_colon layout)).append value).append rest).append (isText_lineBreak layout)).append
        close)

/-- A byte string is written as valid text. -/
theorem writesText_byteArray (layout : Layout) (bytes : Bytes) :
    WritesText layout (byteArray bytes) := by
  apply writesText_array
  intro item hi
  obtain ⟨b, -, rfl⟩ := List.mem_map.1 hi
  exact writesText_natural layout.inner b.toNat

end Json

end MessageRelay
