import MessageRelay.Json.Decode
import MessageRelay.Json.Writer
import MessageRelay.Proofs.Text.DecimalRoundTrip

/-!
# JSON read back

What is written of a value is read as that value, whatever follows it that does not go on with a
number (`ReadsBack`). This holds of natural numbers and of texts, and it passes from the items of an
array and the fields of an object to the whole, in either layout, because the blanks of a layout
are passed over.
-/

set_option autoImplicit false

namespace MessageRelay

/-! ## Strings -/

namespace StringPiece

/-- A piece that is not taken for the end of a string or the start of an escape. -/
def Writable : StringPiece → Prop
  | .byte b => b ≠ 0x22 ∧ b ≠ 0x5C
  | .unit _ => True

/-- What a byte of a text is written as is read again. -/
theorem writable_ofByte (b : UInt8) : (ofByte b).Writable := by
  unfold ofByte
  split
  · trivial
  · rename_i h
    simp only [needsEscape, Bool.or_eq_true, beq_iff_eq, not_or] at h
    exact ⟨h.1.2, h.2⟩

/-- Every piece of a text is read again as it is written. -/
theorem writable_of_mem_ofText {text : String} {piece : StringPiece} (h : piece ∈ ofText text) :
    piece.Writable := by
  obtain ⟨b, -, rfl⟩ := List.mem_map.1 h
  exact writable_ofByte b

end StringPiece

namespace Json

open StringPiece (Writable written writtenAll)

/-- The value of a hexadecimal digit is the number that it was written for. -/
theorem hexValue?_hexDigit (n : Nat) :
    hexValue? (UInt8.ofNat (Bytes.hexDigit (n % 16)).toNat) = some (n % 16) := by
  have all : ∀ k : Fin 16, hexValue? (UInt8.ofNat (Bytes.hexDigit k).toNat) = some k.val := by
    decide
  exact all ⟨n % 16, Nat.mod_lt _ (by decide)⟩

/-- A byte that neither ends the string nor starts an escape stands for itself. -/
theorem readString_byte {b : UInt8} (rest : Bytes) (hq : b ≠ 0x22) (hb : b ≠ 0x5C) :
    readString (b :: rest) = (readString rest).map fun read => (.byte b :: read.1, read.2) := by
  rw [readString]
  · rw [if_neg hb]
  · exact hq
  · intro _ _ _ _ _ h
    exact absurd h hb
  · intro _ _ h
    exact absurd h hb

/-- A short escape stands for the unit that the table gives for its letter. -/
theorem readString_shortEscape {e : UInt8} {u : UInt16} (rest : Bytes) (he : e ≠ 0x75)
    (hu : shortEscape? e = some u) :
    readString (0x5C :: e :: rest)
      = (readString rest).map fun read => (.unit u :: read.1, read.2) := by
  rw [readString]
  · rw [hu]
    cases readString rest <;> rfl
  · intro _ _ _ _ _ h
    exact absurd h he

/-- Four hexadecimal digits behind the letter of a long escape stand for their unit. -/
theorem readString_hexEscape (u : UInt16) (rest : Bytes) :
    readString (0x5C :: 0x75 :: UInt8.ofNat (Bytes.hexDigit (u.toNat / 4096 % 16)).toNat
        :: UInt8.ofNat (Bytes.hexDigit (u.toNat / 256 % 16)).toNat
        :: UInt8.ofNat (Bytes.hexDigit (u.toNat / 16 % 16)).toNat
        :: UInt8.ofNat (Bytes.hexDigit (u.toNat % 16)).toNat :: rest)
      = (readString rest).map fun read => (.unit u :: read.1, read.2) := by
  have same : ((u.toNat / 4096 % 16 * 16 + u.toNat / 256 % 16) * 16 + u.toNat / 16 % 16) * 16
      + u.toNat % 16 = u.toNat := by
    have bound := u.toNat_lt
    omega
  rw [readString]
  simp only [hexValue?_hexDigit, Option.bind_eq_bind, Option.bind_some, same, UInt16.ofNat_toNat]
  cases readString rest <;> rfl

/-- A written piece is read as that piece. -/
theorem readString_written {piece : StringPiece} (rest : Bytes) (h : piece.Writable) :
    readString (written piece ++ rest)
      = (readString rest).map fun read => (piece :: read.1, read.2) := by
  cases piece with
  | byte b => exact readString_byte rest h.1 h.2
  | unit u =>
    unfold written
    simp only
    repeat' split
    all_goals first
      | (rename_i hu
         subst hu
         exact readString_shortEscape rest (by decide) (by decide))
      | exact readString_hexEscape u rest

/-- Written pieces are read up to the closing quote. -/
theorem readString_flatMap_written {pieces : List StringPiece} (rest : Bytes)
    (h : ∀ piece ∈ pieces, piece.Writable) :
    readString (pieces.flatMap written ++ 0x22 :: rest) = some (pieces, rest) := by
  induction pieces with
  | nil => rw [List.flatMap_nil, List.nil_append, readString]
  | cons piece pieces ih =>
    rw [List.flatMap_cons, List.append_assoc,
      readString_written _ (h piece List.mem_cons_self),
      ih fun other ho => h other (List.mem_cons_of_mem piece ho)]
    rfl

/-! ## Numbers -/

/-- Whether bytes do not go on with a number. -/
def EndsNumber (rest : Bytes) : Prop :=
  ∀ b ∈ rest.head?, isDigit b = false ∧ b ≠ 0x2E ∧ b ≠ 0x65 ∧ b ≠ 0x45

/-- The bytes of a natural number. -/
def digitsOf (n : Nat) : Bytes :=
  (Nat.toDigits 10 n).map fun c => UInt8.ofNat c.toNat

/-- The digits of a number are digits. -/
theorem isDigit_of_mem_digitsOf {n : Nat} {b : UInt8} (h : b ∈ digitsOf n) : isDigit b = true := by
  obtain ⟨c, hc, rfl⟩ := List.mem_map.1 h
  have hd := Text.isDigit_of_mem_toDigits hc
  simp only [Text.isDigit, Bool.and_eq_true, decide_eq_true_eq] at hd
  simp only [isDigit, Bool.and_eq_true, decide_eq_true_eq, UInt8.le_iff_toNat_le,
    UInt8.toNat_ofNat']
  have low : (0x30 : UInt8).toNat = 48 := rfl
  have high : (0x39 : UInt8).toNat = 57 := rfl
  omega

/-- Every number has a digit. -/
theorem digitsOf_ne_nil (n : Nat) : digitsOf n ≠ [] := by
  intro h
  exact Nat.toDigits_ne_nil (List.map_eq_nil_iff.1 h)

/-- The first digit is a zero only of the number zero. -/
theorem head_toDigits {n : Nat} (hn : 0 < n) : (Nat.toDigits 10 n).head? ≠ some '0' := by
  induction n using Nat.strongRecOn with
  | ind n ih =>
    rw [Nat.toDigits_eq_if (by decide)]
    split
    · rename_i hlt
      intro h
      have zero : n.digitChar = '0' := by simpa using h
      have : ∀ k : Fin 10, 0 < k.val → k.val.digitChar ≠ '0' := by decide
      exact this ⟨n, hlt⟩ hn zero
    · rename_i hge
      have rest := ih (n / 10) (by omega) (by omega)
      rw [List.head?_append]
      cases hh : (Nat.toDigits 10 (n / 10)).head? with
      | none => exact absurd (List.head?_eq_none_iff.1 hh) Nat.toDigits_ne_nil
      | some c =>
        rw [hh] at rest
        exact rest

/-- No number but zero starts with the digit zero. -/
theorem head_digitsOf {n : Nat} (hn : 0 < n) : (digitsOf n).head? ≠ some 0x30 := by
  intro h
  rw [digitsOf, List.head?_map, Option.map_eq_some_iff] at h
  obtain ⟨c, hc, h30⟩ := h
  have hd := Text.isDigit_of_mem_toDigits (List.mem_of_head? hc)
  simp only [Text.isDigit, Bool.and_eq_true, decide_eq_true_eq] at hd
  have value := congrArg UInt8.toNat h30
  rw [UInt8.toNat_ofNat'] at value
  have low : (0x30 : UInt8).toNat = 48 := rfl
  have zero : c = '0' := by
    apply Char.ext
    apply UInt32.toNat_inj.1
    show c.toNat = 48
    omega
  exact head_toDigits hn (zero ▸ hc)

/-- The digits of a number are read as an integer, up to what cannot go on with it. -/
theorem readInteger_digitsOf (n : Nat) {rest : Bytes} (he : EndsNumber rest) :
    readInteger (digitsOf n ++ rest) = some (digitsOf n, rest) := by
  obtain hn | hn := Nat.eq_zero_or_pos n
  · subst hn
    rfl
  · have first := head_digitsOf hn
    have digits : ∀ b ∈ digitsOf n, isDigit b = true := fun _ => isDigit_of_mem_digitsOf
    have ends : ∀ b ∈ rest.head?, isDigit b = false := fun b hb => (he b hb).1
    have read : readDigits (digitsOf n ++ rest) = some (digitsOf n, rest) := by
      simp only [readDigits, Text.takeWhile_append_of_ends digits ends, List.isEmpty_iff, digitsOf_ne_nil,
        if_false, List.drop_left]
    obtain ⟨b, tail, written⟩ := List.exists_cons_of_ne_nil (digitsOf_ne_nil n)
    rw [written] at first read ⊢
    have nonzero : b ≠ 0x30 := fun h => first (congrArg some h)
    show (if b = 0x30 then some ([b], tail ++ rest) else readDigits (b :: (tail ++ rest))) = _
    rw [if_neg nonzero]
    exact read

/-- There is no fraction where a number cannot go on. -/
theorem readFraction_of_ends {rest : Bytes} (he : EndsNumber rest) :
    readFraction rest = some ([], rest) := by
  unfold readFraction
  split
  · exact absurd rfl (he 0x2E rfl).2.1
  · rfl

/-- There is no exponent where a number cannot go on. -/
theorem readExponent_of_ends {rest : Bytes} (he : EndsNumber rest) :
    readExponent rest = some ([], rest) := by
  cases rest with
  | nil => rfl
  | cons e rest =>
    have noLetter : ¬ (e = 0x65 ∨ e = 0x45) := by
      have ends := he e rfl
      rintro (h | h)
      · exact ends.2.2.1 h
      · exact ends.2.2.2 h
    simp only [readExponent, noLetter, if_false]

/-- The digits of a number are read as a number without a fraction or an exponent. -/
theorem readNumber_digitsOf (n : Nat) {rest : Bytes} (he : EndsNumber rest) :
    readNumber (digitsOf n ++ rest) = some (digitsOf n, rest) := by
  have integer := readInteger_digitsOf n he
  unfold readNumber
  split
  rename_i sign bytes split_
  split at split_
  · rename_i tail minus
    have digit : isDigit 0x2D = true := by
      obtain ⟨b, more, written⟩ := List.exists_cons_of_ne_nil (digitsOf_ne_nil n)
      rw [written] at minus
      cases minus
      apply isDigit_of_mem_digitsOf (n := n)
      rw [written]
      exact List.mem_cons_self
    cases digit
  · cases split_
    simp [integer, readFraction_of_ends he, readExponent_of_ends he]

/-! ## Blanks -/

/-- Whether a byte is passed over between tokens. -/
def isBlank (b : UInt8) : Bool :=
  b == 0x20 || b == 0x09 || b == 0x0A || b == 0x0D

/-- Blanks in front of a byte string are skipped. -/
theorem skipBlanks_append {blanks : Bytes} (bytes : Bytes) (h : ∀ b ∈ blanks, isBlank b = true) :
    skipBlanks (blanks ++ bytes) = skipBlanks bytes := by
  induction blanks with
  | nil => rfl
  | cons b blanks ih =>
    have hb := h b List.mem_cons_self
    rw [List.cons_append, ← ih fun c hc => h c (List.mem_cons_of_mem b hc)]
    exact List.dropWhile_cons_of_pos hb

/-- Nothing is skipped of a byte string that starts with something else. -/
theorem skipBlanks_cons {b : UInt8} (bytes : Bytes) (h : isBlank b = false) :
    skipBlanks (b :: bytes) = b :: bytes := by
  apply List.dropWhile_cons_of_neg
  simpa [isBlank] using h

/-- A line break is made of blanks. -/
theorem isBlank_of_mem_lineBreak {layout : Layout} {b : UInt8} (h : b ∈ layout.lineBreak) :
    isBlank b = true := by
  cases layout with
  | compact => cases h
  | indented level =>
    obtain rfl | h := List.mem_cons.1 h
    · decide
    · rw [List.eq_of_mem_replicate h]
      decide

/-- A value is read the same behind blanks. -/
theorem readValue_blanks (depth : Nat) {blanks : Bytes} (bytes : Bytes)
    (h : ∀ b ∈ blanks, isBlank b = true) :
    readValue depth (blanks ++ bytes) = readValue depth bytes := by
  cases depth with
  | zero => rw [readValue, readValue]
  | succ depth => rw [readValue, readValue, skipBlanks_append bytes h]

/-- A byte other than a digit, a point and the letter of the exponent ends a number. -/
theorem endsNumber_cons {b : UInt8} (rest : Bytes)
    (h : isDigit b = false ∧ b ≠ 0x2E ∧ b ≠ 0x65 ∧ b ≠ 0x45) : EndsNumber (b :: rest) := by
  intro c hc
  cases hc
  exact h

/-- A line break ends a number if what follows it does, even an empty one. -/
theorem endsNumber_lineBreak (layout : Layout) {rest : Bytes} (h : EndsNumber rest) :
    EndsNumber (layout.lineBreak ++ rest) := by
  cases layout with
  | compact => exact h
  | indented level =>
    exact endsNumber_cons _ (by decide)

/-! ## Values -/

/-- What is written of a value is read as that value. It starts neither with a blank nor with a
closing bracket. -/
structure ReadsBack (layout : Layout) (value : Json) : Prop where
  starts : ∃ b tail, write layout value = b :: tail ∧ isBlank b = false ∧ b ≠ 0x5D
  reads : ∀ (depth : Nat) (rest : Bytes), EndsNumber rest → (write layout value).length < depth →
    readValue depth (write layout value ++ rest) = some (value, rest)

/-- A whole text is read as the value that was written. -/
theorem ReadsBack.ofBytes? {layout : Layout} {value : Json} (h : ReadsBack layout value) :
    Json.ofBytes? (write layout value) = some value := by
  have ends : EndsNumber [] := by
    intro b hb
    cases hb
  have read := h.reads (2 * (write layout value).length + 2) [] ends (by omega)
  rw [List.append_nil] at read
  unfold Json.ofBytes?
  rw [read]
  rfl

/-- A digit is not blank. -/
theorem isBlank_of_isDigit {b : UInt8} (h : isDigit b = true) : isBlank b = false := by
  simp only [isDigit, Bool.and_eq_true, decide_eq_true_eq, UInt8.le_iff_toNat_le] at h
  have low : (0x30 : UInt8).toNat = 48 := rfl
  simp only [isBlank, Bool.or_eq_false_iff, beq_eq_false_iff_ne, ne_eq]
  refine ⟨⟨⟨?_, ?_⟩, ?_⟩, ?_⟩ <;>
  · rintro rfl
    revert h
    decide

/-- A number starts with a digit. -/
theorem exists_digitsOf_eq_cons (n : Nat) :
    ∃ b tail, digitsOf n = b :: tail ∧ isDigit b = true := by
  obtain ⟨b, tail, written⟩ := List.exists_cons_of_ne_nil (digitsOf_ne_nil n)
  refine ⟨b, tail, written, ?_⟩
  apply isDigit_of_mem_digitsOf (n := n)
  rw [written]
  exact List.mem_cons_self

/-- A number is read back from its digits, in any layout. -/
theorem readsBack_natural (layout : Layout) (n : Nat) : ReadsBack layout (natural n) where
  starts := by
    obtain ⟨b, tail, written, digit⟩ := exists_digitsOf_eq_cons n
    refine ⟨b, tail, ?_, isBlank_of_isDigit digit, ?_⟩
    · rw [natural, write]
      exact written
    · rintro rfl
      cases digit
  reads := by
    intro depth rest ends hd
    cases depth with
    | zero => omega
    | succ depth =>
      have number := readNumber_digitsOf n ends
      have same : write layout (natural n) = digitsOf n := by
        rw [natural, write]
        rfl
      obtain ⟨b, tail, written, digit⟩ := exists_digitsOf_eq_cons n
      have start : skipBlanks (digitsOf n ++ rest) = digitsOf n ++ rest := by
        rw [written]
        exact skipBlanks_cons _ (isBlank_of_isDigit digit)
      have other : ∀ {c : UInt8} {more : Bytes}, digitsOf n ++ rest = c :: more →
          isDigit c = true := by
        intro c more h
        rw [written] at h
        cases h
        exact digit
      rw [same, readValue, start]
      -- a digit starts none of the other values
      split
      · rename_i h
        cases other h
      · rename_i h
        cases other h
      · rename_i h
        cases other h
      · rename_i h
        cases other h
      · rename_i h
        cases other h
      · rename_i h
        cases other h
      · rw [number]
        rfl

/-- A text is read back from its string, in any layout. -/
theorem readsBack_text (layout : Layout) (value : String) : ReadsBack layout (text value) where
  starts := ⟨0x22, _, by rw [text, write]; rfl, by decide, by decide⟩
  reads := by
    intro depth rest ends hd
    cases depth with
    | zero => omega
    | succ depth =>
      have writable : ∀ piece ∈ StringPiece.ofText value, piece.Writable :=
        fun _ => StringPiece.writable_of_mem_ofText
      have read := readString_flatMap_written rest writable
      rw [text, write, writtenAll, readValue]
      simp [skipBlanks_cons _ (rfl : isBlank 0x22 = false), read]

/-! ## Arrays -/

/-- What stands behind an item does not go on with a number. -/
theorem endsNumber_writeItems (layout outer : Layout) (items : List Json) (rest : Bytes) :
    EndsNumber (writeItems layout items ++ (outer.lineBreak ++ 0x5D :: rest)) := by
  cases items with
  | nil =>
    rw [writeItems, List.nil_append]
    apply endsNumber_lineBreak
    exact endsNumber_cons _ (by decide)
  | cons item items =>
    rw [writeItems]
    exact endsNumber_cons _ (by decide)

/-- The items of an array are read back up to its end if each of them is, given as much depth as
there are bytes. -/
theorem readItems_written {layout : Layout} (outer : Layout) (items : List Json) (rest : Bytes)
    (h : ∀ item ∈ items, ReadsBack layout item) (item : Json) (first : ReadsBack layout item)
    (depth : Nat)
    (hd : (write layout item).length + (writeItems layout items).length + 1 < depth) :
    readItems depth (layout.lineBreak ++ (write layout item ++ (writeItems layout items
      ++ (outer.lineBreak ++ 0x5D :: rest)))) = some (item :: items, rest) := by
  induction items generalizing item depth with
  | nil =>
    cases depth with
    | zero => omega
    | succ depth =>
      have ends := endsNumber_writeItems layout outer [] rest
      rw [writeItems, List.nil_append] at ends ⊢
      rw [readItems, readValue_blanks depth _ fun _ => isBlank_of_mem_lineBreak,
        first.reads depth _ ends (by omega)]
      simp only [Option.bind_eq_bind, Option.bind_some,
        skipBlanks_append _ fun _ => isBlank_of_mem_lineBreak,
        skipBlanks_cons _ (rfl : isBlank 0x5D = false)]
  | cons next items ih =>
    cases depth with
    | zero => omega
    | succ depth =>
      have ends := endsNumber_writeItems layout outer (next :: items) rest
      have more := ih (fun other ho => h other (List.mem_cons_of_mem next ho)) next
        (h next List.mem_cons_self) depth
      rw [writeItems] at ends hd ⊢
      simp only [List.length_cons, List.length_append] at hd
      simp only [List.cons_append, List.append_assoc] at ends ⊢
      rw [readItems, readValue_blanks depth _ fun _ => isBlank_of_mem_lineBreak,
        first.reads depth _ ends (by omega)]
      simp only [Option.bind_eq_bind, Option.bind_some,
        skipBlanks_cons _ (rfl : isBlank 0x2C = false)]
      rw [more (by omega)]
      rfl

/-- An array is read back if each of its items is. -/
theorem readsBack_array {layout : Layout} {items : List Json}
    (h : ∀ item ∈ items, ReadsBack layout.inner item) : ReadsBack layout (.array items) where
  starts := by
    cases items with
    | nil => exact ⟨0x5B, _, by rw [write], by decide, by decide⟩
    | cons item items => exact ⟨0x5B, _, by rw [write]; rfl, by decide, by decide⟩
  reads := by
    intro depth rest ends hd
    cases depth with
    | zero => omega
    | succ depth =>
      cases items with
      | nil =>
        rw [write, readValue]
        simp [skipBlanks_cons _ (rfl : isBlank 0x5B = false),
          skipBlanks_cons _ (rfl : isBlank 0x5D = false)]
      | cons item items =>
        have first := h item List.mem_cons_self
        have read := readItems_written layout items rest
          (fun other ho => h other (List.mem_cons_of_mem item ho)) item first depth
        obtain ⟨b, tail, written, blank, closing⟩ := first.starts
        rw [write] at hd ⊢
        simp only [List.length_cons, List.length_append] at hd
        simp only [List.cons_append, List.append_assoc, List.nil_append]
        rw [readValue, skipBlanks_cons _ (rfl : isBlank 0x5B = false)]
        simp only [skipBlanks_append _ fun _ => isBlank_of_mem_lineBreak]
        rw [read (by omega)]
        rw [written, List.cons_append, skipBlanks_cons _ blank]
        simp [closing]

/-! ## Objects -/

/-- A field whose name and value are read back. -/
def FieldReadsBack (layout : Layout) (field : List StringPiece × Json) : Prop :=
  (∀ piece ∈ field.1, piece.Writable) ∧ ReadsBack layout field.2

/-- The blanks between the colon and the value. -/
def Layout.gap : Layout → Bytes
  | .compact => []
  | .indented _ => [0x20]

/-- What stands behind a colon is made of blanks. -/
theorem isBlank_of_mem_gap {layout : Layout} {b : UInt8} (h : b ∈ layout.gap) :
    isBlank b = true := by
  cases layout with
  | compact => cases h
  | indented level =>
    rw [List.mem_singleton.1 h]
    decide

/-- What stands between a name and its value is the colon and the gap of the layout. -/
theorem colon_eq (layout : Layout) : layout.colon = 0x3A :: layout.gap := by
  cases layout <;> rfl

/-- The gap behind a colon is the same for inner values. -/
theorem gap_inner (layout : Layout) : layout.inner.gap = layout.gap := by
  cases layout <;> rfl

/-- The name of a field is read back from its string, with the colon behind it. -/
theorem readName_written {name : List StringPiece} (rest : Bytes)
    (h : ∀ piece ∈ name, piece.Writable) :
    readName (name.flatMap written ++ 0x22 :: 0x3A :: rest) = some (name, rest) := by
  rw [readName, readString_flatMap_written _ h]
  simp only [Option.bind_eq_bind, Option.bind_some,
    skipBlanks_cons _ (rfl : isBlank 0x3A = false)]

/-- A value is followed by another field or by the end of its object, and both end a number. -/
theorem endsNumber_writeFields (layout outer : Layout) (fields : List (List StringPiece × Json))
    (rest : Bytes) :
    EndsNumber (writeFields layout fields ++ (outer.lineBreak ++ 0x7D :: rest)) := by
  cases fields with
  | nil =>
    rw [writeFields, List.nil_append]
    apply endsNumber_lineBreak
    exact endsNumber_cons _ (by decide)
  | cons field fields =>
    obtain ⟨name, value⟩ := field
    rw [writeFields]
    exact endsNumber_cons _ (by decide)

/-- The fields of an object are read back up to its end if each of them is, given as much depth as
there are bytes. -/
theorem readFields_written {layout : Layout} (outer : Layout)
    (fields : List (List StringPiece × Json)) (rest : Bytes)
    (h : ∀ field ∈ fields, FieldReadsBack layout field) (name : List StringPiece) (value : Json)
    (writable : ∀ piece ∈ name, piece.Writable) (first : ReadsBack layout value) (depth : Nat)
    (hd : (write layout value).length + (writeFields layout fields).length + 1 < depth) :
    readFields depth (layout.lineBreak ++ 0x22 :: (name.flatMap written ++ 0x22 :: 0x3A ::
      (layout.gap ++ (write layout value ++ (writeFields layout fields
        ++ (outer.lineBreak ++ 0x7D :: rest)))))) = some ((name, value) :: fields, rest) := by
  induction fields generalizing name value depth with
  | nil =>
    cases depth with
    | zero => omega
    | succ depth =>
      have ends := endsNumber_writeFields layout outer [] rest
      rw [writeFields, List.nil_append] at ends ⊢
      rw [readFields, skipBlanks_append _ fun _ => isBlank_of_mem_lineBreak,
        skipBlanks_cons _ (rfl : isBlank 0x22 = false)]
      simp only [readName_written _ writable, Option.bind_eq_bind, Option.bind_some,
        readValue_blanks depth _ fun _ => isBlank_of_mem_gap]
      rw [first.reads depth _ ends (by omega)]
      simp only [Option.bind_some, skipBlanks_append _ fun _ => isBlank_of_mem_lineBreak,
        skipBlanks_cons _ (rfl : isBlank 0x7D = false)]
  | cons next fields ih =>
    obtain ⟨nextName, nextValue⟩ := next
    cases depth with
    | zero => omega
    | succ depth =>
      have ends := endsNumber_writeFields layout outer ((nextName, nextValue) :: fields) rest
      have more := ih (fun other ho => h other (List.mem_cons_of_mem _ ho)) nextName nextValue
        (h _ List.mem_cons_self).1 (h _ List.mem_cons_self).2 depth
      rw [writeFields] at ends hd ⊢
      simp only [writtenAll, colon_eq, List.length_cons, List.length_append] at hd
      simp only [writtenAll, colon_eq, List.cons_append, List.append_assoc,
        List.nil_append] at ends ⊢
      rw [readFields, skipBlanks_append _ fun _ => isBlank_of_mem_lineBreak,
        skipBlanks_cons _ (rfl : isBlank 0x22 = false)]
      simp only [readName_written _ writable, Option.bind_eq_bind, Option.bind_some,
        readValue_blanks depth _ fun _ => isBlank_of_mem_gap]
      rw [first.reads depth _ ends (by omega)]
      simp only [Option.bind_some, skipBlanks_cons _ (rfl : isBlank 0x2C = false)]
      rw [more (by omega)]
      rfl

/-- An object is read back if each of its fields is. -/
theorem readsBack_object {layout : Layout} {fields : List (List StringPiece × Json)}
    (h : ∀ field ∈ fields, FieldReadsBack layout.inner field) :
    ReadsBack layout (.object fields) where
  starts := by
    cases fields with
    | nil => exact ⟨0x7B, _, by rw [write], by decide, by decide⟩
    | cons field fields => exact ⟨0x7B, _, by rw [write]; rfl, by decide, by decide⟩
  reads := by
    intro depth rest ends hd
    cases depth with
    | zero => omega
    | succ depth =>
      cases fields with
      | nil =>
        rw [write, readValue]
        simp [skipBlanks_cons _ (rfl : isBlank 0x7B = false),
          skipBlanks_cons _ (rfl : isBlank 0x7D = false)]
      | cons field fields =>
        obtain ⟨name, value⟩ := field
        have read := readFields_written layout fields rest
          (fun other ho => h other (List.mem_cons_of_mem _ ho)) name value
          (h _ List.mem_cons_self).1 (h _ List.mem_cons_self).2 depth
        rw [write] at hd ⊢
        simp only [writtenAll, colon_eq, List.length_cons, List.length_append] at hd
        simp only [writtenAll, colon_eq, List.cons_append, List.append_assoc, List.nil_append]
        rw [readValue, skipBlanks_cons _ (rfl : isBlank 0x7B = false)]
        simp only [skipBlanks_append _ fun _ => isBlank_of_mem_lineBreak,
          skipBlanks_cons _ (rfl : isBlank 0x22 = false)]
        rw [gap_inner] at read
        rw [read (by omega)]
        rfl

/-- A record is read back if each of its values is. -/
theorem readsBack_record {layout : Layout} {fields : List (String × Json)}
    (h : ∀ field ∈ fields, ReadsBack layout.inner field.2) : ReadsBack layout (record fields) := by
  apply readsBack_object
  intro field hf
  obtain ⟨named, hn, rfl⟩ := List.mem_map.1 hf
  exact ⟨fun _ => StringPiece.writable_of_mem_ofText, h named hn⟩

/-- A byte string is read back from the array of its numbers. -/
theorem readsBack_byteArray (layout : Layout) (bytes : Bytes) :
    ReadsBack layout (byteArray bytes) := by
  apply readsBack_array
  intro item hi
  obtain ⟨b, -, rfl⟩ := List.mem_map.1 hi
  exact readsBack_natural layout.inner b.toNat

end Json

end MessageRelay
