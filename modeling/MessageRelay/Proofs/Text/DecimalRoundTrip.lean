import MessageRelay.Text.Decimal

/-!
# Decimal numbers read back

The digits of a number are decimal digits, and the number comes back from them, also with zeros in
front (`digits?_toDigits`, `digits?_decimalOfWidth`). Nothing else is read as a number but digits,
and a plus sign before them where one is allowed (`digits?_eq_some_iff`,
`boundedDecimal?_eq_some_iff`).
-/

set_option autoImplicit false

namespace MessageRelay.Text

/-- A stretch of what is looked for ends where something else follows. -/
theorem takeWhile_append_of_ends {α : Type} {p : α → Bool} {front rest : List α}
    (hf : ∀ a ∈ front, p a = true) (he : ∀ a ∈ rest.head?, p a = false) :
    (front ++ rest).takeWhile p = front := by
  rw [List.takeWhile_append_of_pos hf]
  cases rest with
  | nil => simp
  | cons a rest => simp [he a rfl]

/-- A digit stands for its distance from zero. -/
theorem digitValue?_of_isDigit {c : Char} (h : isDigit c = true) :
    digitValue? 10 c = some (c.toNat - 48) := by
  simp only [isDigit, Bool.and_eq_true, decide_eq_true_eq] at h
  simp only [digitValue?, h, and_self, if_true]
  rw [if_pos]
  omega

/-- Reading digits is evaluating them. -/
theorem digitsFrom?_of_isDigit (cs : List Char) (acc : Nat) (h : ∀ c ∈ cs, isDigit c = true) :
    digitsFrom? 10 acc cs = some (Nat.ofDigitChars 10 cs acc) := by
  induction cs generalizing acc with
  | nil => simp [digitsFrom?]
  | cons c cs ih =>
    have hc := digitValue?_of_isDigit (h c List.mem_cons_self)
    simp only [digitsFrom?, hc, Option.bind_some]
    rw [ih _ fun d hd => h d (List.mem_cons_of_mem c hd), Nat.ofDigitChars_cons, Nat.mul_comm]
    rfl

/-- Digits stand for the number that they make up. -/
theorem digits?_of_isDigit {cs : List Char} (hne : cs ≠ []) (h : ∀ c ∈ cs, isDigit c = true) :
    digits? 10 cs = some (Nat.ofDigitChars 10 cs 0) := by
  cases cs with
  | nil => exact absurd rfl hne
  | cons c cs => exact digitsFrom?_of_isDigit (c :: cs) 0 h

/-- The decimal form of a number is made of digits. -/
theorem isDigit_of_mem_toDigits {n : Nat} {c : Char} (h : c ∈ Nat.toDigits 10 n) :
    isDigit c = true := by
  have hd := Char.isDigit_iff_toNat.1 (Nat.isDigit_of_mem_toDigits (by decide) (by decide) h)
  simp only [isDigit, Bool.and_eq_true, decide_eq_true_eq]
  exact hd

/-- A number is read back from its decimal form. -/
theorem digits?_toDigits (n : Nat) : digits? 10 (Nat.toDigits 10 n) = some n := by
  rw [digits?_of_isDigit Nat.toDigits_ne_nil fun c hc => isDigit_of_mem_toDigits hc,
    Nat.ofDigitChars_ten_toDigits]

/-! ## Numbers of a width -/

/-- The decimal form of a width is made of digits. -/
theorem isDigit_of_mem_decimalOfWidth {width n : Nat} {c : Char}
    (h : c ∈ decimalOfWidth width n) : isDigit c = true := by
  obtain h | h := List.mem_append.1 h
  · rw [List.eq_of_mem_replicate h]
    decide
  · exact isDigit_of_mem_toDigits h

/-- A number is read back from its decimal form of any width. -/
theorem digits?_decimalOfWidth (width n : Nat) : digits? 10 (decimalOfWidth width n) = some n := by
  have hne : decimalOfWidth width n ≠ [] := by
    intro h
    exact Nat.toDigits_ne_nil (List.append_eq_nil_iff.1 h).2
  rw [digits?_of_isDigit hne fun c hc => isDigit_of_mem_decimalOfWidth hc, decimalOfWidth,
    Nat.ofDigitChars_append, Nat.ofDigitChars_replicate_zero, Nat.mul_zero,
    Nat.ofDigitChars_ten_toDigits]

/-- A number that fits takes exactly its width. -/
theorem length_decimalOfWidth {width n : Nat} (hw : 0 < width) (h : n < Nat.pow 10 width) :
    (decimalOfWidth width n).length = width := by
  have hl := (Nat.length_toDigits_le_iff (by decide) hw).2 h
  simp only [decimalOfWidth, List.length_append, List.length_replicate]
  omega

/-! ## What counts as a number -/

/-- Only a digit stands for a decimal value. -/
theorem isDigit_of_digitValue? {c : Char} {d : Nat} (h : digitValue? 10 c = some d) :
    isDigit c = true := by
  simp only [isDigit, Bool.and_eq_true, decide_eq_true_eq]
  simp only [digitValue?, Option.ite_none_right_eq_some] at h
  obtain ⟨small, -⟩ := h
  -- Letters have values of ten and more.
  split at small
  · assumption
  · split at small
    · omega
    · split at small <;> omega

/-- Only digits make up a decimal number. -/
theorem isDigit_of_digitsFrom? {cs : List Char} {acc n : Nat} (h : digitsFrom? 10 acc cs = some n) :
    ∀ c ∈ cs, isDigit c = true := by
  induction cs generalizing acc with
  | nil => simp
  | cons c cs ih =>
    obtain ⟨d, value, rest⟩ := Option.bind_eq_some_iff.1 h
    exact List.forall_mem_cons.2 ⟨isDigit_of_digitValue? value, ih rest⟩

/-- A decimal number is a row of digits, one at least. -/
theorem digits?_eq_some_iff {cs : List Char} {n : Nat} :
    digits? 10 cs = some n ↔
      cs ≠ [] ∧ (∀ c ∈ cs, isDigit c = true) ∧ Nat.ofDigitChars 10 cs 0 = n := by
  constructor
  · intro h
    have some_ : cs ≠ [] := by
      rintro rfl
      cases h
    have digits : ∀ c ∈ cs, isDigit c = true := by
      cases cs with
      | nil => exact absurd rfl some_
      | cons => exact isDigit_of_digitsFrom? h
    rw [digits?_of_isDigit some_ digits] at h
    exact ⟨some_, digits, Option.some.inj h⟩
  · rintro ⟨some_, digits, rfl⟩
    exact digits?_of_isDigit some_ digits

/-- A number within a bound may have a plus sign before its digits and nothing else. -/
theorem boundedDecimal?_eq_some_iff {bound n : Nat} {cs : List Char} :
    boundedDecimal? bound cs = some n ↔
      ∃ digits, (cs = digits ∨ cs = '+' :: digits) ∧ digits? 10 digits = some n ∧ n ≤ bound := by
  have unsigned (digits : List Char) : digits? 10 ('+' :: digits) ≠ some n := by
    intro h
    have plus := (digits?_eq_some_iff.1 h).2.1 '+' List.mem_cons_self
    exact absurd plus (by decide)
  unfold boundedDecimal?
  simp only [Option.filter_eq_some_iff, decide_eq_true_eq]
  constructor
  · rintro ⟨h, fits⟩
    split at h
    · exact ⟨_, .inr rfl, h, fits⟩
    · exact ⟨cs, .inl rfl, h, fits⟩
  · rintro ⟨digits, rfl | rfl, h, fits⟩
    · split
      · exact absurd h (unsigned _)
      · exact ⟨h, fits⟩
    · exact ⟨h, fits⟩

end MessageRelay.Text
