import MessageRelay.Proofs.Text.DecimalRoundTrip
import MessageRelay.Timestamp.Rfc3339

/-!
# Moments read back

Every moment comes back from its text (`ofText?_toText`): the reader takes exactly the digits that
were written for each number, because a mark that is no digit stands behind them.
-/

set_option autoImplicit false

namespace MessageRelay.Timestamp

open MessageRelay.Text

/-- Whether the text does not go on with a digit. -/
def EndsDigits (rest : List Char) : Prop :=
  ∀ c ∈ rest.head?, isDigit c = false

/-- A number is read from as many digits as there are, up to a width. -/
theorem readNumber_append {width n : Nat} {digits rest : List Char}
    (hd : ∀ c ∈ digits, isDigit c = true) (hn : digits? 10 digits = some n)
    (hw : digits.length ≤ width) (he : EndsDigits rest) :
    readNumber width (digits ++ rest) = some (n, rest) := by
  have taken : ((digits ++ rest).take width).takeWhile isDigit = digits := by
    rw [List.take_append, List.take_of_length_le hw]
    apply takeWhile_append_of_ends hd
    intro c hc
    cases rest with
    | nil => simp at hc
    | cons b rest =>
      cases hk : width - digits.length with
      | zero => simp [hk] at hc
      | succ k =>
        rw [hk, List.take_succ_cons] at hc
        exact he c hc
  unfold readNumber
  simp only [taken, hn, Option.map_some, List.drop_left]

/-- A digit is not blank. -/
theorem isBlank_of_isDigit {c : Char} (h : isDigit c = true) : isBlank c = false := by
  simp only [isDigit, Bool.and_eq_true, decide_eq_true_eq] at h
  simp only [isBlank, Bool.or_eq_false_iff, Bool.and_eq_false_iff, decide_eq_false_iff_not,
    beq_eq_false_iff_ne, ne_eq]
  omega

/-- Nothing is trimmed in front of a digit. -/
theorem trimStart_of_isDigit {digits : List Char} (rest : List Char) (hne : digits ≠ [])
    (hd : ∀ c ∈ digits, isDigit c = true) : trimStart (digits ++ rest) = digits ++ rest := by
  cases digits with
  | nil => exact absurd rfl hne
  | cons c digits =>
    have hc := isBlank_of_isDigit (hd c List.mem_cons_self)
    simp [trimStart, hc]

/-- The decimal form of a width has a digit. -/
theorem decimalOfWidth_ne_nil (width n : Nat) : decimalOfWidth width n ≠ [] := by
  intro h
  exact Nat.toDigits_ne_nil (List.append_eq_nil_iff.1 h).2

/-! ## The parts of a moment -/

/-- A number below one hundred is read back from its two digits. -/
theorem readPair_append {n : Nat} {rest : List Char} (hn : n < 100) (he : EndsDigits rest) :
    readPair (decimalOfWidth 2 n ++ rest) = some (n, rest) := by
  have digits : ∀ c ∈ decimalOfWidth 2 n, isDigit c = true :=
    fun _ => isDigit_of_mem_decimalOfWidth
  rw [readPair, trimStart_of_isDigit rest (decimalOfWidth_ne_nil 2 n) digits]
  apply readNumber_append digits (digits?_decimalOfWidth 2 n) _ he
  exact Nat.le_of_eq (length_decimalOfWidth (by decide) hn)

/-- A mark that is not blank is skipped. -/
theorem skipMark_cons {mark : Char} (rest : List Char) (h : isBlank mark = false) :
    skipMark mark (mark :: rest) = some rest := by
  simp [skipMark, trimStart, h]

/-- A year comes back, with and without a sign. -/
theorem readYear_append {year : Int} {rest : List Char} (he : EndsDigits rest) :
    readYear (yearText year ++ rest) = some (year, rest) := by
  unfold yearText
  split
  · rename_i h
    have digits : ∀ c ∈ decimalOfWidth 4 year.toNat, isDigit c = true :=
      fun _ => isDigit_of_mem_decimalOfWidth
    have read : readNumber 4 (decimalOfWidth 4 year.toNat ++ rest) = some (year.toNat, rest) := by
      apply readNumber_append digits (digits?_decimalOfWidth 4 year.toNat) _ he
      exact Nat.le_of_eq (length_decimalOfWidth (by decide) (show year.toNat < 10000 by omega))
    have back : ((year.toNat : Nat) : Int) = year := Int.toNat_of_nonneg h.1
    unfold readYear
    rw [trimStart_of_isDigit rest (decimalOfWidth_ne_nil 4 _) digits]
    obtain ⟨c, cs, written⟩ := List.exists_cons_of_ne_nil (decimalOfWidth_ne_nil 4 year.toNat)
    rw [written] at digits read ⊢
    -- the first digit is neither of the signs
    split
    · rename_i tail first
      cases first
      cases digits '-' List.mem_cons_self
    · rename_i tail first
      cases first
      cases digits '+' List.mem_cons_self
    · simp only [read, Option.map_some, back]
  · rename_i h
    have read : readNumber (decimalOfWidth 4 year.natAbs ++ rest).length
        (decimalOfWidth 4 year.natAbs ++ rest) = some (year.natAbs, rest) := by
      apply readNumber_append (fun _ => isDigit_of_mem_decimalOfWidth)
        (digits?_decimalOfWidth 4 year.natAbs) _ he
      simp
    split
    · rename_i negative
      have minus : isBlank '-' = false := by decide
      have back : -((year.natAbs : Nat) : Int) = year := by omega
      have trimmed : trimStart ('-' :: decimalOfWidth 4 year.natAbs ++ rest)
          = '-' :: (decimalOfWidth 4 year.natAbs ++ rest) := by
        simp [trimStart, minus]
      unfold readYear
      rw [trimmed]
      simp only [read, Option.map_some, back]
    · rename_i positive
      have plus : isBlank '+' = false := by decide
      have back : ((year.natAbs : Nat) : Int) = year := by omega
      have trimmed : trimStart ('+' :: decimalOfWidth 4 year.natAbs ++ rest)
          = '+' :: (decimalOfWidth 4 year.natAbs ++ rest) := by
        simp [trimStart, plus]
      unfold readYear
      rw [trimmed]
      simp only [read, Option.map_some, back]

/-- A fraction comes back in each of the widths it is written in. -/
theorem readFraction_point {width n : Nat} {rest : List Char} (hw : 0 < width) (h9 : width ≤ 9)
    (hn : n < Nat.pow 10 width) (he : EndsDigits rest) :
    readFraction ('.' :: decimalOfWidth width n ++ rest)
      = some (n * Nat.pow 10 (9 - width), rest) := by
  have digits : ∀ c ∈ decimalOfWidth width n, isDigit c = true :=
    fun _ => isDigit_of_mem_decimalOfWidth
  have length := length_decimalOfWidth hw hn
  simp only [readFraction, List.cons_append, takeWhile_append_of_ends digits he]
  rw [List.take_of_length_le (by omega), digits?_decimalOfWidth, Option.map_some, List.drop_left,
    length]

/-- The nanoseconds are read back from the fraction of a second, in front of the mark of the
zone. -/
theorem readFraction_append {nanosecond : Nat} (h : nanosecond < 1000000000) :
    readFraction (fractionText nanosecond ++ ['Z']) = some (nanosecond, ['Z']) := by
  have ends : EndsDigits ['Z'] := by
    intro c hc
    cases hc
    decide
  unfold fractionText
  split
  · rename_i h0
    rw [h0]
    rfl
  split
  · have few : nanosecond / 1000000 < Nat.pow 10 3 := show nanosecond / 1000000 < 1000 by omega
    have whole : nanosecond / 1000000 * Nat.pow 10 (9 - 3) = nanosecond :=
      show nanosecond / 1000000 * 1000000 = nanosecond by omega
    rw [readFraction_point (by decide) (by decide) few ends, whole]
  split
  · have few : nanosecond / 1000 < Nat.pow 10 6 := show nanosecond / 1000 < 1000000 by omega
    have whole : nanosecond / 1000 * Nat.pow 10 (9 - 6) = nanosecond :=
      show nanosecond / 1000 * 1000 = nanosecond by omega
    rw [readFraction_point (by decide) (by decide) few ends, whole]
  · have whole : nanosecond * Nat.pow 10 (9 - 9) = nanosecond := Nat.mul_one nanosecond
    rw [readFraction_point (by decide) (by decide) h ends, whole]

/-- Digits end in front of any other character. -/
theorem endsDigits_cons {mark : Char} (rest : List Char) (h : isDigit mark = false) :
    EndsDigits (mark :: rest) := by
  intro c hc
  cases hc
  exact h

/-- Digits end in front of the fraction of a second, or of the mark of the zone. -/
theorem endsDigits_fractionText (nanosecond : Nat) : EndsDigits (fractionText nanosecond ++ ['Z']) := by
  unfold fractionText
  split
  · exact endsDigits_cons _ (by decide)
  split
  · exact endsDigits_cons _ (by decide)
  split
  · exact endsDigits_cons _ (by decide)
  · exact endsDigits_cons _ (by decide)

/-- Reading goes on with what was read. -/
theorem bind_eq_of_eq_some {α β : Type} {x : Option α} {f : α → Option β} {a : α}
    (h : x = some a) : (x >>= f) = f a := by
  rw [h]
  rfl

/-- Every moment comes back from its text. -/
theorem ofText?_toText (t : Timestamp) : ofText? t.toText = some t := by
  obtain ⟨hh, hm, hs, hn⟩ := t.inDay
  have hmonth := t.date.inCalendar.2.2.2.1
  have hday : t.date.day < 100 := by
    have bound := t.date.inCalendar.2.2.2.2.2
    unfold daysInMonth at bound
    split at bound
    · split at bound <;> omega
    · split at bound <;> omega
  have read : ∀ {n : Nat} {mark : Char} (rest : List Char), n < 100 → isDigit mark = false →
      readPair (decimalOfWidth 2 n ++ mark :: rest) = some (n, mark :: rest) := by
    intro n mark rest h hmark
    exact readPair_append h (endsDigits_cons rest hmark)
  unfold ofText? toText
  simp only [String.toList_ofList, List.append_assoc, List.cons_append]
  have hmin : t.minute < 100 := by omega
  have hsec : t.second < 100 := by omega
  refine (bind_eq_of_eq_some (readYear_append (endsDigits_cons _ (by decide)))).trans ?_
  refine (bind_eq_of_eq_some (skipMark_cons _ (by decide))).trans ?_
  refine (bind_eq_of_eq_some (read _ (by omega) (by decide))).trans ?_
  refine (bind_eq_of_eq_some (skipMark_cons _ (by decide))).trans ?_
  refine (bind_eq_of_eq_some (read _ hday (by decide))).trans ?_
  refine (if_pos (Or.inl rfl)).trans ?_
  refine (bind_eq_of_eq_some rfl).trans ?_
  refine (bind_eq_of_eq_some (read _ (by omega) (by decide))).trans ?_
  refine (bind_eq_of_eq_some (skipMark_cons _ (by decide))).trans ?_
  refine (bind_eq_of_eq_some (read _ hmin (by decide))).trans ?_
  refine (bind_eq_of_eq_some (skipMark_cons _ (by decide))).trans ?_
  refine (bind_eq_of_eq_some
    (readPair_append hsec (endsDigits_fractionText t.nanosecond))).trans ?_
  refine (bind_eq_of_eq_some (readFraction_append hn)).trans ?_
  have offset : readOffset (trimStart ['Z']) = some (0, []) := by
    have trimmed : trimStart ['Z'] = ['Z'] := by decide
    rw [trimmed]
    rfl
  refine (bind_eq_of_eq_some offset).trans ?_
  refine (if_neg (by decide)).trans ?_
  refine (bind_eq_of_eq_some (Date.ofCivil?_self t.date)).trans ?_
  refine (bind_eq_of_eq_some (ofParts?_self t)).trans ?_
  exact ofOffset?_zero t

end MessageRelay.Timestamp
