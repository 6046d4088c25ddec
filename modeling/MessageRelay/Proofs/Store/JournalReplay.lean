import Mathlib.Data.List.Induction
import MessageRelay.Proofs.Store.MailboxOrder
import MessageRelay.Proofs.Store.StoredForms

/-!
# The log read back

A log gives back the entries it was written from (`scan_append`), also if the front of one more
record stands behind them, as a crash in the middle of a write leaves it (`scan_torn`). Replaying
entries keeps the mailbox well kept as long as they are entries that a mailbox wrote, and the
shortest log of a mailbox leads to that mailbox (`replay_compaction`).
-/

set_option autoImplicit false

namespace MessageRelay.Store

namespace JournalEntry

/-- An entry comes back from the kind and the body of its record. -/
theorem ofRecord_body (entry : JournalEntry) : ofRecord entry.kind entry.body = .ok entry := by
  have width : ∀ id : UInt32, Bytes.toUInt32 (Bytes.ofUInt32 id) = id := by
    intro id
    have read := Bytes.toUInt32_ofUInt32_append id []
    rwa [List.append_nil] at read
  cases entry with
  | inserted message =>
    have read := StoredMessage.ofBytes?_compact message
    simp only [ofRecord, kind, body, if_true, read]
  | deleted id => simp [ofRecord, kind, body, width]
  | nextId id => simp [ofRecord, kind, body, width]

/-- The front of a record: the length of its body, its kind and its check value. -/
def front (size : UInt32) (kind : UInt8) (stated : UInt32) : Bytes :=
  Bytes.ofUInt32 size ++ kind :: Bytes.ofUInt32 stated

/-- The front of a record takes its full width. -/
@[simp] theorem length_front (size : UInt32) (kind : UInt8) (stated : UInt32) :
    (front size kind stated).length = frontSize := by
  simp [front, frontSize]

/-- A record is written exactly if its size can be stated, and then as its front and its body. -/
theorem record_eq_ok_iff (kind : UInt8) (body bytes : Bytes) :
    record kind body = .ok bytes ↔ body.length < 4294967296 ∧
      bytes = front (UInt32.ofNat body.length) kind (checksum kind body) ++ body := by
  unfold record
  split
  · rename_i h
    simp only [front, Except.ok.injEq, h, true_and, eq_comm]
  · rename_i h
    simp [h]

/-- An entry whose body is shorter than 2^32 bytes can be written. -/
theorem exists_encode_of_length {entry : JournalEntry} (h : entry.body.length < 4294967296) :
    ∃ bytes, entry.encode = .ok bytes :=
  ⟨_, (record_eq_ok_iff _ _ _).2 ⟨h, rfl⟩⟩

/-- The record of an entry takes the width of the front and the length of the body. -/
theorem length_of_encode {entry : JournalEntry} {bytes : Bytes} (h : entry.encode = .ok bytes) :
    bytes.length = frontSize + entry.body.length := by
  rw [((record_eq_ok_iff _ _ _).1 h).2, List.length_append, length_front]

end JournalEntry

namespace Journal

open JournalEntry (front frontSize record checksum ofRecord length_front)

/-! ## Records -/

/-- What is read of bytes with the front of a record. -/
theorem readRecord_front (size : UInt32) (kind : UInt8) (stated : UInt32) (rest : Bytes) :
    readRecord (front size kind stated ++ rest) =
      if rest.length < size.toNat then .error .tornBody
      else if stated ≠ checksum kind (rest.take size.toNat) then .error .mismatch
      else (ofRecord kind (rest.take size.toNat)).map fun entry =>
        (entry, rest.drop size.toNat) := by
  have long : ¬ (front size kind stated ++ rest).length < frontSize := by
    rw [List.length_append, length_front]
    omega
  have behind : (front size kind stated ++ rest).drop 4 = kind :: (Bytes.ofUInt32 stated ++ rest) := by
    rw [front, List.append_assoc, List.drop_left' (Bytes.length_ofUInt32 _)]
    rfl
  have five : (front size kind stated ++ rest).drop 5 = Bytes.ofUInt32 stated ++ rest := by
    rw [← List.drop_drop (i := 1) (j := 4), behind]
    rfl
  have all : (front size kind stated ++ rest).drop frontSize = rest :=
    List.drop_left' (length_front size kind stated)
  have first : Bytes.toUInt32 (front size kind stated ++ rest) = size := by
    rw [front, List.append_assoc, Bytes.toUInt32_ofUInt32_append]
  unfold readRecord
  rw [if_neg long]
  simp only [first, behind, five, all, List.headD_cons, Bytes.toUInt32_ofUInt32_append]

/-- A whole record is read as what it means, whatever follows it. -/
theorem readRecord_record {kind : UInt8} {body bytes : Bytes} (h : record kind body = .ok bytes)
    (rest : Bytes) :
    readRecord (bytes ++ rest) = (ofRecord kind body).map fun entry => (entry, rest) := by
  obtain ⟨fits, rfl⟩ := (JournalEntry.record_eq_ok_iff kind body bytes).1 h
  have size : (UInt32.ofNat body.length).toNat = body.length := UInt32.toNat_ofNat_of_lt' fits
  have whole : ¬ (body ++ rest).length < body.length := by
    rw [List.length_append]
    omega
  rw [List.append_assoc, readRecord_front, size, if_neg whole, List.take_left, List.drop_left,
    if_neg (by simp)]

/-- The record of an entry is read as the entry. -/
theorem readRecord_append {entry : JournalEntry} {bytes : Bytes} (h : entry.encode = .ok bytes)
    (rest : Bytes) : readRecord (bytes ++ rest) = .ok (entry, rest) := by
  rw [readRecord_record h, JournalEntry.ofRecord_body]
  rfl

/-- A log that does not start with a record has no entries, and ends for that reason. -/
theorem scan_of_error {log : Bytes} {fault : JournalEnd} (hne : log ≠ [])
    (h : readRecord log = .error fault) : scan log = ([], fault) := by
  rw [scan, if_neg (by simpa using hne)]
  split
  · rename_i fault' hf
    rw [h] at hf
    cases hf
    rfl
  · rename_i hf
    rw [h] at hf
    cases hf

/-- A log that starts with a record has its entry in front of those of the rest. -/
theorem scan_of_ok {log rest : Bytes} {entry : JournalEntry}
    (h : readRecord log = .ok (entry, rest)) :
    scan log = (entry :: (scan rest).1, (scan rest).2) := by
  have hne : log ≠ [] := by
    rintro rfl
    exact Nat.not_lt_zero _ (length_lt_of_readRecord h)
  rw [scan, if_neg (by simpa using hne)]
  split
  · rename_i hf
    rw [h] at hf
    cases hf
  · rename_i entry' rest' hf
    rw [h] at hf
    cases hf
    rfl

/-- Whether a log ends as it was written or as a crash in the middle of a write leaves it. -/
def JournalEnd.Harmless (ending : JournalEnd) : Prop :=
  ending = .complete ∨ ending = .tornFront ∨ ending = .tornBody

/-- The front of a record, cut off anywhere, is passed over. -/
theorem scan_take {entry : JournalEntry} {bytes : Bytes} (h : entry.encode = .ok bytes) {k : Nat}
    (hk : k < bytes.length) :
    (scan (bytes.take k)).1 = [] ∧ JournalEnd.Harmless (scan (bytes.take k)).2 := by
  have length := JournalEntry.length_of_encode h
  obtain rfl | hpos := Nat.eq_zero_or_pos k
  · rw [List.take_zero, scan]
    exact ⟨rfl, .inl rfl⟩
  have nonempty : bytes.take k ≠ [] := by
    rw [← List.length_pos_iff, List.length_take]
    omega
  have torn : readRecord (bytes.take k) = .error .tornFront ∨
      readRecord (bytes.take k) = .error .tornBody := by
    by_cases short : k < frontSize
    · left
      rw [readRecord, if_pos]
      rw [List.length_take]
      omega
    · right
      -- the whole front is there, and the body is not
      obtain ⟨fits, rfl⟩ := (JournalEntry.record_eq_ok_iff _ _ _).1 h
      have size : (UInt32.ofNat entry.body.length).toNat = entry.body.length :=
        UInt32.toNat_ofNat_of_lt' fits
      rw [List.take_append, length_front, List.take_of_length_le (by rw [length_front]; omega),
        readRecord_front, if_pos]
      rw [size, List.length_take]
      omega
  obtain torn | torn := torn
  · rw [scan_of_error nonempty torn]
    exact ⟨rfl, .inr (.inl rfl)⟩
  · rw [scan_of_error nonempty torn]
    exact ⟨rfl, .inr (.inr rfl)⟩

/-! ## Logs -/

/-- A log without entries is empty. -/
theorem encode_nil : encode [] = .ok [] := rfl

/-- A log is written as the record of its first entry and those of the others. -/
theorem encode_cons_eq_ok_iff (entry : JournalEntry) (entries : List JournalEntry) (log : Bytes) :
    encode (entry :: entries) = .ok log ↔ ∃ bytes rest, entry.encode = .ok bytes ∧
      encode entries = .ok rest ∧ log = bytes ++ rest := by
  unfold encode
  rw [List.mapM_cons]
  cases entry.encode with
  | error e => simp [Except.map, bind, Except.bind]
  | ok bytes =>
    cases entries.mapM JournalEntry.encode with
    | error e => simp [Except.map, bind, Except.bind]
    | ok parts =>
      simp only [Except.map, bind, Except.bind, pure, Except.pure, Except.ok.injEq,
        List.flatten_cons]
      constructor
      · rintro rfl
        exact ⟨_, _, rfl, rfl, rfl⟩
      · rintro ⟨_, _, rfl, rfl, rfl⟩
        rfl

/-- A log can be written if the record of every entry can. -/
theorem exists_encode {entries : List JournalEntry}
    (h : ∀ entry ∈ entries, ∃ bytes, entry.encode = .ok bytes) : ∃ log, encode entries = .ok log := by
  induction entries with
  | nil => exact ⟨_, encode_nil⟩
  | cons entry entries ih =>
    obtain ⟨bytes, hb⟩ := h entry List.mem_cons_self
    obtain ⟨log, hl⟩ := ih fun other ho => h other (List.mem_cons_of_mem entry ho)
    exact ⟨_, (encode_cons_eq_ok_iff entry entries _).2 ⟨bytes, log, hb, hl, rfl⟩⟩

/-- Every entry of a log that is written has a record. -/
theorem exists_encode_of_mem {entries : List JournalEntry} {log : Bytes}
    (h : encode entries = .ok log) {entry : JournalEntry} (hm : entry ∈ entries) :
    ∃ bytes, entry.encode = .ok bytes := by
  induction entries generalizing log with
  | nil => cases hm
  | cons first entries ih =>
    obtain ⟨bytes, rest, hb, hr, -⟩ := (encode_cons_eq_ok_iff first entries log).1 h
    obtain rfl | hm := List.mem_cons.1 hm
    · exact ⟨bytes, hb⟩
    · exact ih hr hm

/-- A record written behind a log adds its entry to the others. -/
theorem encode_snoc {entries : List JournalEntry} {log : Bytes} (h : encode entries = .ok log)
    {entry : JournalEntry} {bytes : Bytes} (hb : entry.encode = .ok bytes) :
    encode (entries ++ [entry]) = .ok (log ++ bytes) := by
  induction entries generalizing log with
  | nil =>
    cases h
    exact (encode_cons_eq_ok_iff entry [] _).2 ⟨bytes, [], hb, encode_nil, by simp⟩
  | cons first entries ih =>
    obtain ⟨front, rest, hf, hr, rfl⟩ := (encode_cons_eq_ok_iff first entries log).1 h
    exact (encode_cons_eq_ok_iff first _ _).2 ⟨front, _, hf, ih hr, List.append_assoc _ _ _⟩

/-- A log gives back its entries and then those of what follows it. -/
theorem scan_append {entries : List JournalEntry} {log : Bytes} (h : encode entries = .ok log)
    (tail : Bytes) : scan (log ++ tail) = (entries ++ (scan tail).1, (scan tail).2) := by
  induction entries generalizing log with
  | nil =>
    cases h
    rfl
  | cons entry entries ih =>
    obtain ⟨bytes, rest, hb, hr, rfl⟩ := (encode_cons_eq_ok_iff entry entries log).1 h
    rw [List.append_assoc, scan_of_ok (readRecord_append hb (rest ++ tail)), ih hr]
    rfl

/-- A log with the front of one more record behind it gives back its entries. -/
theorem scan_torn {entries : List JournalEntry} {log : Bytes} (h : encode entries = .ok log)
    {entry : JournalEntry} {bytes : Bytes} (hb : entry.encode = .ok bytes) {k : Nat}
    (hk : k < bytes.length) :
    (scan (log ++ bytes.take k)).1 = entries ∧
      JournalEnd.Harmless (scan (log ++ bytes.take k)).2 := by
  obtain ⟨nothing, harmless⟩ := scan_take hb hk
  rw [scan_append h, nothing, List.append_nil]
  exact ⟨rfl, harmless⟩

/-- The entries of a log are read back from it, up to its complete end. -/
theorem scan_encode {entries : List JournalEntry} {log : Bytes} (h : encode entries = .ok log) :
    scan log = (entries, .complete) := by
  have read := scan_append h []
  have nothing : scan [] = ([], .complete) := by
    rw [scan]
    rfl
  rw [nothing, List.append_nil, List.append_nil] at read
  exact read

/-! ## Replaying -/

/-- An entry behind others is applied to what they lead to. -/
theorem replay_snoc (entries : List JournalEntry) (entry : JournalEntry) :
    replay (entries ++ [entry]) = JournalEntry.apply (replay entries) entry := by
  rw [replay, List.foldl_append]
  rfl

/-- The number behind one that is below a bound is the next one, and within the bound. -/
theorem successor_eq {id bound : UInt32} (h : id < bound) :
    JournalEntry.successor id = id + 1 ∧ id + 1 ≤ bound := by
  have top := bound.toNat_lt
  have below := UInt32.lt_iff_toNat_lt.1 h
  have hne : id ≠ Mailbox.lastId := by
    rintro rfl
    have last : Mailbox.lastId.toNat = 4294967295 := rfl
    omega
  refine ⟨if_neg hne, ?_⟩
  rw [UInt32.le_iff_toNat_le, UInt32.toNat_add]
  have one : (1 : UInt32).toNat = 1 := rfl
  rw [one]
  omega

/-- Replaying a message puts it at the end if its number is above those of all others. -/
theorem apply_inserted {mailbox : Mailbox} (kept : mailbox.WellKept) {message : StoredMessage}
    (above : ∀ other ∈ mailbox.messages, other.id < message.id)
    (hid : message.id ≠ Mailbox.lastId) :
    (JournalEntry.apply mailbox (.inserted message)).WellKept ∧
      (JournalEntry.apply mailbox (.inserted message)).messages = mailbox.messages ++ [message] ∧
      (JournalEntry.apply mailbox (.inserted message)).nextId
        = if mailbox.nextId < message.id + 1 then message.id + 1 else mailbox.nextId := by
  have next : JournalEntry.successor message.id = message.id + 1 := if_neg hid
  have grown := Mailbox.lt_next hid
  simp only [JournalEntry.apply, next]
  refine ⟨?_, rfl, rfl⟩
  unfold Mailbox.raiseNextId
  split
  · rename_i h
    exact (kept.withNextId (UInt32.le_of_lt h)).restore above grown
  · rename_i h
    apply (kept.withNextId (UInt32.le_refl _)).restore above
    exact UInt32.lt_of_lt_of_le grown (UInt32.not_lt.1 h)

/-- A message that is left after a replay came with one of the entries. -/
theorem mem_of_mem_replay {entries : List JournalEntry} {message : StoredMessage}
    (h : message ∈ (replay entries).messages) : .inserted message ∈ entries := by
  induction entries using List.reverseRecOn with
  | nil => cases h
  | append_singleton entries entry ih =>
    rw [replay_snoc] at h
    apply List.mem_append.2
    cases entry with
    | inserted other =>
      obtain h | h := List.mem_append.1 h
      · exact .inl (ih h)
      · rw [List.mem_singleton.1 h]
        exact .inr List.mem_cons_self
    | deleted id =>
      left
      apply ih
      simp only [JournalEntry.apply, Mailbox.forget] at h
      split at h
      · exact h
      · exact (List.mem_filter.1 h).1
    | nextId id => exact .inl (ih h)

/-- Replaying messages in the order of their numbers, all below the next one, appends them. -/
theorem foldl_inserted (messages : List StoredMessage) {mailbox : Mailbox}
    (kept : mailbox.WellKept)
    (ordered : (mailbox.messages ++ messages).Pairwise fun a b => a.id < b.id)
    (below : ∀ message ∈ messages, message.id < mailbox.nextId) :
    ((messages.map .inserted).foldl JournalEntry.apply mailbox).WellKept ∧
      ((messages.map .inserted).foldl JournalEntry.apply mailbox).messages
        = mailbox.messages ++ messages ∧
      ((messages.map .inserted).foldl JournalEntry.apply mailbox).nextId = mailbox.nextId := by
  induction messages generalizing mailbox with
  | nil => exact ⟨kept, (List.append_nil _).symm, rfl⟩
  | cons message messages ih =>
    have small := below message List.mem_cons_self
    have bound := (successor_eq small).2
    -- a number below another one is not the last, so it has a successor
    have hid : message.id ≠ Mailbox.lastId := by
      intro last
      have top := mailbox.nextId.toNat_lt
      have under := UInt32.lt_iff_toNat_lt.1 small
      rw [last] at under
      have value : Mailbox.lastId.toNat = 4294967295 := rfl
      omega
    have above : ∀ other ∈ mailbox.messages, other.id < message.id := by
      intro other ho
      exact (List.pairwise_append.1 ordered).2.2 other ho message List.mem_cons_self
    obtain ⟨kept', messages', nextId'⟩ := apply_inserted kept above hid
    rw [if_neg (UInt32.not_lt.2 bound)] at nextId'
    rw [List.map_cons, List.foldl_cons]
    have shifted : mailbox.messages ++ [message] ++ messages = mailbox.messages ++ message :: messages := by
      rw [List.append_assoc]
      rfl
    rw [← shifted, ← messages', ← nextId']
    apply ih kept'
    · rw [messages', shifted]
      exact ordered
    · intro other ho
      rw [nextId']
      exact below other (List.mem_cons_of_mem message ho)

/-- The shortest log of a mailbox leads back to it. -/
theorem replay_compaction {mailbox : Mailbox} (kept : mailbox.WellKept) :
    (replay (compaction mailbox)).WellKept ∧
      (replay (compaction mailbox)).messages = mailbox.messages ∧
      (replay (compaction mailbox)).nextId = mailbox.nextId := by
  have positive := kept.positive
  have started : Mailbox.raiseNextId mailbox.nextId .empty
      = { Mailbox.empty with nextId := mailbox.nextId } := by
    unfold Mailbox.raiseNextId
    split
    · rfl
    · rename_i h
      have one : Mailbox.empty.nextId = mailbox.nextId := by
        have least := UInt32.le_iff_toNat_le.1 (UInt32.not_lt.1 h)
        have above := UInt32.lt_iff_toNat_lt.1 positive
        have value : Mailbox.empty.nextId.toNat = 1 := rfl
        have zero : (0 : UInt32).toNat = 0 := rfl
        apply UInt32.toNat_inj.1
        omega
      rw [one]
  have first : ({ Mailbox.empty with nextId := mailbox.nextId } : Mailbox).WellKept := {
    positive := positive
    ordered := List.Pairwise.nil
    numbered := by simp [Mailbox.empty]
    owned := Mailbox.wellKept_empty.owned }
  have replayed := foldl_inserted mailbox.messages first kept.ordered kept.numbered
  rw [replay, compaction, kept.pending_eq, List.foldl_cons]
  simp only [JournalEntry.apply, started]
  exact replayed

/-- A mailbox whose messages could be written can be written anew. -/
theorem exists_encode_compaction {mailbox : Mailbox}
    (h : ∀ message ∈ mailbox.messages, ∃ bytes, (JournalEntry.inserted message).encode = .ok bytes) :
    ∃ log, encode (compaction mailbox) = .ok log := by
  apply exists_encode
  intro entry he
  obtain rfl | he := List.mem_cons.1 he
  · apply JournalEntry.exists_encode_of_length
    simp [JournalEntry.body]
  · obtain ⟨message, hm, rfl⟩ := List.mem_map.1 he
    exact h message (List.mem_mergeSort.1 hm)

end Journal

end MessageRelay.Store
