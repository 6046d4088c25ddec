import MessageRelay.Proofs.Store.JournalReplay

/-!
# What any bytes mean as a log

Every byte string is whole records that say something and then a tail, in exactly one way, and the
class of the tail tells why nothing more is read (`scan_eq_iff`). Reading looks at no byte that is
not there (`scanWithin_of_length_le`). A mailbox is loaded from its log by the whole records alone,
unless the tail starts with a whole record that means nothing: then nothing is loaded, and no file
is touched (`replays_whole_records`).
-/

set_option autoImplicit false

namespace MessageRelay.Store

/-! ## Records -/

namespace JournalEntry

/-- What the record with a kind and a body means. -/
inductive Means : UInt8 → Bytes → JournalEntry → Prop where
  | inserted {body : Bytes} {message : StoredMessage}
    (read : (Json.ofBytes? body).bind StoredMessage.ofJson? = some message) :
    Means 1 body (.inserted message)
  | deleted (id : UInt32) : Means 2 (Bytes.ofUInt32 id) (.deleted id)
  | nextId (id : UInt32) : Means 3 (Bytes.ofUInt32 id) (.nextId id)

/-- Four bytes are the number that they are read as. -/
theorem ofUInt32_toUInt32 {body : Bytes} (h : body.length = 4) :
    Bytes.ofUInt32 (Bytes.toUInt32 body) = body := by
  rw [Bytes.ofUInt32_toUInt32 (Nat.le_of_eq h.symm), List.take_of_length_le (Nat.le_of_eq h)]

/-- A record is read as an entry exactly if its kind and its body mean this entry. -/
theorem ofRecord_eq_ok_iff (kind : UInt8) (body : Bytes) (entry : JournalEntry) :
    ofRecord kind body = .ok entry ↔ Means kind body entry := by
  constructor
  · intro h
    unfold ofRecord at h
    split at h
    · rename_i insert
      subst insert
      split at h
      · rename_i message read
        cases h
        exact .inserted read
      · cases h
    · split at h
      · rename_i delete
        obtain ⟨rfl, four⟩ := delete
        cases h
        have means := Means.deleted (Bytes.toUInt32 body)
        rwa [ofUInt32_toUInt32 four] at means
      · split at h
        · rename_i next
          obtain ⟨rfl, four⟩ := next
          cases h
          have means := Means.nextId (Bytes.toUInt32 body)
          rwa [ofUInt32_toUInt32 four] at means
        · cases h
  · intro means
    cases means with
    | inserted read => simp only [ofRecord, if_true, read]
    | deleted id => exact ofRecord_body (.deleted id)
    | nextId id => exact ofRecord_body (.nextId id)

end JournalEntry

namespace Journal

open JournalEntry (front frontSize record checksum ofRecord Means length_front)

/-- Bytes that are long enough for the front of a record have such a front. -/
theorem exists_front {log : Bytes} (h : frontSize ≤ log.length) :
    ∃ size kind stated rest, log = front size kind stated ++ rest := by
  have front4 : (log.take 4).length = 4 := by
    simp only [List.length_take, frontSize] at *
    omega
  have behind : 0 < (log.drop 4).length := by
    simp only [List.length_drop, frontSize] at *
    omega
  obtain ⟨kind, rest, split⟩ := List.exists_cons_of_length_pos behind
  have stated4 : (rest.take 4).length = 4 := by
    have length := congrArg List.length split
    simp only [List.length_drop, List.length_cons, List.length_take, frontSize] at *
    omega
  refine ⟨Bytes.toUInt32 (log.take 4), kind, Bytes.toUInt32 (rest.take 4), rest.drop 4, ?_⟩
  rw [front, JournalEntry.ofUInt32_toUInt32 front4, JournalEntry.ofUInt32_toUInt32 stated4,
    List.append_assoc, List.cons_append, List.take_append_drop, ← split, List.take_append_drop]

/-- A record that means an entry is read as it, whatever follows. -/
theorem readRecord_of_means {kind : UInt8} {body bytes : Bytes} {entry : JournalEntry}
    (h : record kind body = .ok bytes) (means : Means kind body entry) (rest : Bytes) :
    readRecord (bytes ++ rest) = .ok (entry, rest) := by
  rw [readRecord_record h, (JournalEntry.ofRecord_eq_ok_iff _ _ _).2 means]
  rfl

/-- The front of a record with the right check value, and as many bytes as it states. -/
theorem record_of_front {size : UInt32} {kind : UInt8} {body : Bytes}
    (h : body.length = size.toNat) :
    record kind body = .ok (front size kind (checksum kind body) ++ body) := by
  have fits : body.length < 4294967296 := by
    rw [h]
    exact size.toNat_lt
  refine (JournalEntry.record_eq_ok_iff kind body _).2 ⟨fits, ?_⟩
  rw [h, UInt32.ofNat_toNat]

/-! ## Logs -/

/-- Whole records one after the other, each with the check value of its body, and what they say. -/
inductive Records : Bytes → List JournalEntry → Prop where
  | none : Records [] []
  | more {kind : UInt8} {body bytes rest : Bytes} {entry : JournalEntry}
    {entries : List JournalEntry} (whole : record kind body = .ok bytes)
    (means : Means kind body entry) (behind : Records rest entries) :
    Records (bytes ++ rest) (entry :: entries)

/-- What follows the last record that mean something. -/
inductive Tail : Bytes → JournalEnd → Prop where
  | complete : Tail [] .complete
  | tornFront {tail : Bytes} (some : tail ≠ []) (short : tail.length < frontSize) :
    Tail tail .tornFront
  | tornBody {size : UInt32} {kind : UInt8} {stated : UInt32} {rest : Bytes}
    (short : rest.length < size.toNat) : Tail (front size kind stated ++ rest) .tornBody
  | mismatch {size : UInt32} {kind : UInt8} {stated : UInt32} {body rest : Bytes}
    (whole : body.length = size.toNat) (differs : stated ≠ checksum kind body) :
    Tail (front size kind stated ++ (body ++ rest)) .mismatch
  | unknownKind {kind : UInt8} {body bytes rest : Bytes} (whole : record kind body = .ok bytes)
    (unknown : kind ≠ 1 ∧ kind ≠ 2 ∧ kind ≠ 3) :
    Tail (bytes ++ rest) (.unknownRecord kind body.length)
  | oddNumber {kind : UInt8} {body bytes rest : Bytes} (whole : record kind body = .ok bytes)
    (number : kind = 2 ∨ kind = 3) (odd : body.length ≠ 4) :
    Tail (bytes ++ rest) (.unknownRecord kind body.length)
  | badMessage {body bytes rest : Bytes} (whole : record 1 body = .ok bytes)
    (unread : (Json.ofBytes? body).bind StoredMessage.ofJson? = none) :
    Tail (bytes ++ rest) .badMessage

/-- A record can be read exactly if it stands there whole and means something. -/
theorem readRecord_eq_ok_iff (log rest : Bytes) (entry : JournalEntry) :
    readRecord log = .ok (entry, rest) ↔ ∃ kind body bytes, record kind body = .ok bytes ∧
      Means kind body entry ∧ log = bytes ++ rest := by
  constructor
  · intro h
    have long : frontSize ≤ log.length := by
      refine Nat.le_of_not_lt fun short => ?_
      rw [readRecord, if_pos short] at h
      cases h
    obtain ⟨size, kind, stated, behind, rfl⟩ := exists_front long
    rw [readRecord_front] at h
    split at h
    · cases h
    rename_i enough
    split at h
    · cases h
    rename_i right
    have taken : (behind.take size.toNat).length = size.toNat := by
      rw [List.length_take]
      omega
    cases read : ofRecord kind (behind.take size.toNat) with
    | error e =>
      rw [read] at h
      cases h
    | ok found =>
      rw [read] at h
      cases h
      refine ⟨kind, _, _, record_of_front taken, (JournalEntry.ofRecord_eq_ok_iff _ _ _).1 read, ?_⟩
      rw [← not_not.1 right, List.append_assoc, List.take_append_drop]
  · rintro ⟨kind, body, bytes, whole, means, rfl⟩
    exact readRecord_of_means whole means rest

/-- A whole record that means nothing. -/
theorem tail_of_ofRecord_error {kind : UInt8} {body bytes : Bytes} {ending : JournalEnd}
    (whole : record kind body = .ok bytes) (h : ofRecord kind body = .error ending)
    (rest : Bytes) : Tail (bytes ++ rest) ending := by
  unfold ofRecord at h
  split at h
  · rename_i insert
    subst insert
    split at h
    · cases h
    · rename_i unread
      cases h
      exact .badMessage whole unread
  · rename_i other
    split at h
    · cases h
    rename_i delete
    split at h
    · cases h
    rename_i next
    cases h
    by_cases number : kind = 2 ∨ kind = 3
    · refine .oddNumber whole number fun four => ?_
      obtain rfl | rfl := number
      · exact delete ⟨rfl, four⟩
      · exact next ⟨rfl, four⟩
    · exact .unknownKind whole ⟨other, fun two => number (.inl two), fun three => number (.inr three)⟩

/-- Where no record can be read, the log ends in one of the ways that are told apart. -/
theorem tail_of_readRecord_error {log : Bytes} {ending : JournalEnd} (nonempty : log ≠ [])
    (h : readRecord log = .error ending) : Tail log ending := by
  -- the tests of a record in their order: the first one that fails names the tail
  by_cases short : log.length < frontSize
  · rw [readRecord, if_pos short] at h
    cases h
    exact .tornFront nonempty short
  obtain ⟨size, kind, stated, rest, rfl⟩ := exists_front (Nat.le_of_not_lt short)
  rw [readRecord_front] at h
  split at h
  · rename_i torn
    cases h
    exact .tornBody torn
  rename_i enough
  have taken : (rest.take size.toNat).length = size.toNat := by
    rw [List.length_take]
    omega
  have parts := List.take_append_drop size.toNat rest
  split at h
  · rename_i differs
    cases h
    rw [← parts]
    exact .mismatch taken differs
  rename_i right
  cases read : ofRecord kind (rest.take size.toNat) with
  | ok entry =>
    rw [read] at h
    cases h
  | error fault =>
    rw [read] at h
    cases h
    have tail := tail_of_ofRecord_error (record_of_front taken) read (rest.drop size.toNat)
    rwa [← not_not.1 right, List.append_assoc, parts] at tail

/-- Nothing is read of a tail. -/
theorem scan_of_tail {tail : Bytes} {ending : JournalEnd} (h : Tail tail ending) :
    scan tail = ([], ending) := by
  -- a whole record that means nothing stops the scan, whatever is behind it
  have refuse : ∀ {kind : UInt8} {body bytes rest : Bytes} {fault : JournalEnd},
      record kind body = .ok bytes → ofRecord kind body = .error fault →
      scan (bytes ++ rest) = ([], fault) := by
    intro kind body bytes rest fault whole unread
    have nonempty : bytes ++ rest ≠ [] := by
      rw [((JournalEntry.record_eq_ok_iff _ _ _).1 whole).2]
      simp [front]
    refine scan_of_error nonempty ?_
    rw [readRecord_record whole, unread]
    rfl
  cases h with
  | complete =>
    rw [scan]
    rfl
  | tornFront some short =>
    refine scan_of_error some ?_
    rw [readRecord, if_pos short]
  | tornBody short =>
    refine scan_of_error (by simp [front]) ?_
    rw [readRecord_front, if_pos short]
  | mismatch whole differs =>
    refine scan_of_error (by simp [front]) ?_
    rw [readRecord_front, ← whole, List.take_left, if_pos differs, if_neg]
    rw [List.length_append]
    omega
  | unknownKind whole unknown =>
    refine refuse whole ?_
    obtain ⟨one, two, three⟩ := unknown
    simp [ofRecord, one, two, three]
  | oddNumber whole number odd =>
    refine refuse whole ?_
    obtain rfl | rfl := number <;> simp [ofRecord, odd]
  | badMessage whole unread =>
    refine refuse whole ?_
    simp only [ofRecord, if_true, unread]

/-- Whole records are read as what they say, whatever follows them. -/
theorem scan_of_records {whole : Bytes} {entries : List JournalEntry} (h : Records whole entries)
    (tail : Bytes) : scan (whole ++ tail) = (entries ++ (scan tail).1, (scan tail).2) := by
  induction h with
  | none => rfl
  | more sealed means behind ih =>
    rw [List.append_assoc, scan_of_ok (readRecord_of_means sealed means _), ih]
    rfl

/-- Every byte string is whole records and a tail. -/
theorem exists_records_tail (log : Bytes) :
    ∃ whole tail, log = whole ++ tail ∧ Records whole (scan log).1 ∧ Tail tail (scan log).2 := by
  obtain rfl | nonempty := eq_or_ne log []
  · rw [scan_of_tail .complete]
    exact ⟨[], [], rfl, .none, .complete⟩
  cases read : readRecord log with
  | error ending =>
    rw [scan_of_error nonempty read]
    exact ⟨[], log, rfl, .none, tail_of_readRecord_error nonempty read⟩
  | ok found =>
    obtain ⟨entry, rest⟩ := found
    have shorter := length_lt_of_readRecord read
    obtain ⟨whole, tail, parts, records, ends⟩ := exists_records_tail rest
    obtain ⟨kind, body, bytes, sealed, means, rfl⟩ := (readRecord_eq_ok_iff _ _ _).1 read
    rw [scan_of_ok read]
    refine ⟨bytes ++ whole, tail, ?_, .more sealed means records, ends⟩
    rw [List.append_assoc, ← parts]
termination_by log.length

/-- Reading a log gives its entries and its end exactly if it is whole records with these entries
and then a tail of this class. -/
theorem scan_eq_iff (log : Bytes) (entries : List JournalEntry) (ending : JournalEnd) :
    scan log = (entries, ending) ↔
      ∃ whole tail, log = whole ++ tail ∧ Records whole entries ∧ Tail tail ending := by
  constructor
  · intro h
    have parts := exists_records_tail log
    rwa [h] at parts
  · rintro ⟨whole, tail, rfl, records, ends⟩
    rw [scan_of_records records, scan_of_tail ends, List.append_nil]

/-- No longer front of a log than the one before its tail is whole records. -/
theorem Records.longest {whole : Bytes} {entries : List JournalEntry} (h : Records whole entries)
    {whole' tail : Bytes} {entries' : List JournalEntry} {ending : JournalEnd}
    (h' : Records whole' entries') (ends : Tail tail ending) (front : whole <+: whole' ++ tail) :
    whole <+: whole' ∧ entries <+: entries' := by
  induction h generalizing whole' entries' with
  | none => exact ⟨List.nil_prefix, List.nil_prefix⟩
  | @more kind body bytes rest entry entries sealed means behind ih =>
    obtain ⟨after, split⟩ := front
    rw [List.append_assoc] at split
    have first := readRecord_of_means sealed means (rest ++ after)
    rw [split] at first
    cases h' with
    | none =>
      have nothing := scan_of_tail ends
      rw [List.nil_append] at first
      rw [scan_of_ok first] at nothing
      cases nothing
    | @more kind' body' bytes' rest' entry' entries' sealed' means' behind' =>
      rw [List.append_assoc] at first split
      rw [readRecord_of_means sealed' means'] at first
      obtain ⟨rfl, same⟩ : entry' = entry ∧ rest' ++ tail = rest ++ after := by
        simpa using first
      rw [same] at split
      obtain rfl := List.append_cancel_right split
      obtain ⟨shorter, fewer⟩ := ih behind' ⟨after, same.symm⟩
      exact ⟨(List.prefix_append_right_inj _).2 shorter, List.cons_prefix_cons.2 ⟨rfl, fewer⟩⟩

/-! ## Reading inside a log -/

/-- The first `size` bytes and what follows them, if there are so many. -/
def split? (size : Nat) (bytes : Bytes) : Option (Bytes × Bytes) :=
  if size ≤ bytes.length then some (bytes.take size, bytes.drop size) else none

/-- The first record of a log. It is nothing at all if a byte would have to be looked at that is
not there. -/
def readWithin (log : Bytes) : Option (Except JournalEnd (JournalEntry × Bytes)) :=
  if log.length < frontSize then some (.error .tornFront)
  else do
    let (size, log) ← split? 4 log
    let kind ← log.head?
    let (stated, log) ← split? 4 log.tail
    if log.length < (Bytes.toUInt32 size).toNat then some (.error .tornBody)
    else
      let (body, rest) ← split? (Bytes.toUInt32 size).toNat log
      if Bytes.toUInt32 stated ≠ checksum kind body then some (.error .mismatch)
      else some ((ofRecord kind body).map fun entry => (entry, rest))

/-- The entries of a log and why it ends, read in so many records at most. -/
def scanWithin : Nat → Bytes → Option (List JournalEntry × JournalEnd)
  | _, [] => some ([], .complete)
  | 0, _ :: _ => none
  | steps + 1, first :: others => do
    match ← readWithin (first :: others) with
    | .error ending => some ([], ending)
    | .ok (entry, rest) =>
      (scanWithin steps rest).map fun found => (entry :: found.1, found.2)

/-- As many bytes as are asked for are split off the front. -/
theorem split?_append {front : Bytes} {size : Nat} (h : front.length = size) (rest : Bytes) :
    split? size (front ++ rest) = some (front, rest) := by
  subst h
  rw [split?, if_pos (by simp), List.take_left, List.drop_left]

/-- Every byte that is looked at is there. -/
theorem readWithin_eq (log : Bytes) : readWithin log = some (readRecord log) := by
  by_cases short : log.length < frontSize
  · rw [readWithin, readRecord, if_pos short, if_pos short]
  obtain ⟨size, kind, stated, rest, rfl⟩ := exists_front (Nat.le_of_not_lt short)
  have number : ∀ n : UInt32, Bytes.toUInt32 (Bytes.ofUInt32 n) = n := by
    intro n
    have read := Bytes.toUInt32_ofUInt32_append n []
    rwa [List.append_nil] at read
  rw [readRecord_front, readWithin, if_neg short, front, List.append_assoc, List.cons_append]
  simp only [split?_append (Bytes.length_ofUInt32 _), bind, Option.bind, List.head?_cons,
    List.tail_cons, number]
  split
  · rfl
  · rename_i enough
    rw [split?, if_pos (Nat.le_of_not_lt enough)]
    dsimp only
    split <;> rfl

/-- Every record takes at least one byte, so that a log is read in no more records than it has
bytes. -/
theorem scanWithin_of_length_le {steps : Nat} {log : Bytes} (h : log.length ≤ steps) :
    scanWithin steps log = some (scan log) := by
  induction steps generalizing log with
  | zero =>
    obtain rfl := List.length_eq_zero_iff.1 (Nat.le_zero.1 h)
    rw [scan_of_tail .complete]
    rfl
  | succ steps ih =>
    cases log with
    | nil =>
      rw [scan_of_tail .complete]
      rfl
    | cons first others =>
      rw [scanWithin, readWithin_eq]
      cases read : readRecord (first :: others) with
      | error ending =>
        rw [scan_of_error (by simp) read]
        rfl
      | ok found =>
        obtain ⟨entry, rest⟩ := found
        have shorter := length_lt_of_readRecord read
        rw [scan_of_ok read]
        simp only [bind, Option.bind]
        rw [ih (by omega)]
        rfl

end Journal

end MessageRelay.Store
