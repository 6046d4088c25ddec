import Mathlib.Data.List.Forall2
import MessageRelay.Proofs.Checksum
import MessageRelay.Proofs.Store.Opening

/-!
# A changed byte ends a log

Each record of a log carries the check value of its kind and its body. If one byte of a record is
changed behind the length of its body, the record stays as long as it was and its check value is
wrong (`exists_front_of_changed`), so the log is read up to that record and no further
(`changed_byte_ends_log`). A byte of the length is another matter: it decides where the body ends.
-/

set_option autoImplicit false

namespace MessageRelay.Store

/-! ## One record -/

namespace JournalEntry

/-- Bytes of the length of the body, with which a record starts. -/
def lengthSize : Nat := 4

/-- Four bytes that differ in one place are different numbers. -/
theorem exists_ofUInt32_of_changed {n : UInt32} {x y : UInt8} {before behind : Bytes}
    (h : Bytes.ofUInt32 n = before ++ x :: behind) (differ : x ≠ y) :
    ∃ n', before ++ y :: behind = Bytes.ofUInt32 n' ∧ n' ≠ n := by
  have four : (before ++ y :: behind).length = 4 := by
    rw [← Bytes.length_ofUInt32 n, h]
    simp
  refine ⟨_, (ofUInt32_toUInt32 four).symm, ?_⟩
  intro same
  have bytes := congrArg Bytes.ofUInt32 same
  rw [ofUInt32_toUInt32 four, h, List.append_cancel_left_eq] at bytes
  exact differ (List.cons.inj bytes).1.symm

/-- A record with a byte changed behind the length of its body is as long as that length says, and
its check value is not its own. -/
theorem exists_front_of_changed {kind x y : UInt8} {body before behind : Bytes}
    (h : record kind body = .ok (before ++ x :: behind)) (outside : lengthSize ≤ before.length)
    (differ : x ≠ y) :
    ∃ size kind' stated body', before ++ y :: behind = front size kind' stated ++ body' ∧
      body'.length = size.toNat ∧ stated ≠ checksum kind' body' := by
  obtain ⟨fits, layout⟩ := (record_eq_ok_iff kind body _).1 h
  have whole : (UInt32.ofNat body.length).toNat = body.length := UInt32.toNat_ofNat_of_lt' fits
  generalize UInt32.ofNat body.length = size at layout whole
  rw [front, List.append_assoc] at layout
  obtain ⟨before, rfl⟩ : Bytes.ofUInt32 size <+: before :=
    List.prefix_of_prefix_length_le ⟨_, layout.symm⟩ ⟨_, rfl⟩
      (by rw [Bytes.length_ofUInt32]; exact outside)
  rw [List.append_assoc, List.append_cancel_left_eq, List.cons_append] at layout
  -- the changed byte is the kind, one of the check value, or one of the body
  cases before with
  | nil =>
    obtain ⟨rfl, rfl⟩ := List.cons.inj layout
    refine ⟨size, y, checksum x body, body, by simp [front], whole.symm, ?_⟩
    exact Crc32.checksum_ne_of_byte differ [] body
  | cons first before =>
    obtain ⟨rfl, layout⟩ := List.cons.inj layout
    obtain ⟨inside, sealed, rest⟩ | ⟨before, rfl, rfl⟩ := List.append_eq_append_iff.1 layout
    · cases inside with
      | nil =>
        rw [List.append_nil] at sealed
        rw [List.nil_append] at rest
        subst rest
        refine ⟨size, first, checksum first (x :: behind), y :: behind, ?_, ?_, ?_⟩
        · rw [← sealed]
          simp [front]
        · rw [whole]
          rfl
        · exact Crc32.checksum_ne_of_byte differ [first] behind
      | cons byte inside =>
        obtain ⟨rfl, rfl⟩ := List.cons.inj rest
        obtain ⟨stated, read, wrong⟩ := exists_ofUInt32_of_changed sealed differ
        refine ⟨size, first, stated, body, ?_, whole.symm, wrong⟩
        rw [front, ← read]
        simp
    · refine ⟨size, first, checksum first (before ++ x :: behind), before ++ y :: behind, ?_, ?_, ?_⟩
      · simp [front]
      · rw [whole]
        simp
      · exact Crc32.checksum_ne_of_byte differ (first :: before) behind

end JournalEntry

namespace Journal

open JournalEntry (record Means ofRecord lengthSize)

/-! ## Logs of written records -/

/-- The mailbox that a log leads to, or the fault that its end is. -/
def recover (path : String) (log : Bytes) : Except StoreError Mailbox :=
  match (scan log).2.fault? path with
  | some fault => .error fault
  | none => .ok (replay (scan log).1)

/-- What is recovered from a log of written records is what they lead to. -/
theorem recover_of_encode (path : String) {entries : List JournalEntry} {log : Bytes}
    (h : encode entries = .ok log) : recover path log = .ok (replay entries) := by
  rw [recover, scan_encode h]
  rfl

/-- Whether bytes are a record with its own check value, whatever its kind and its body. -/
def Sealed (bytes : Bytes) : Prop :=
  ∃ kind body, record kind body = .ok bytes

/-- Whether bytes are a record that says something. -/
def Speaks (bytes : Bytes) (entry : JournalEntry) : Prop :=
  ∃ kind body, record kind body = .ok bytes ∧ Means kind body entry

/-- Records that each say something make up a log of records. -/
theorem records_of_speaks {records : List Bytes} {entries : List JournalEntry}
    (h : List.Forall₂ Speaks records entries) : Records records.flatten entries := by
  induction h with
  | nil => exact .none
  | cons first _ ih =>
    obtain ⟨kind, body, whole, means⟩ := first
    exact .more whole means ih

/-- The end of a log that is a whole record without a meaning is a fault. -/
theorem fault?_of_ofRecord_error {kind : UInt8} {body : Bytes} {ending : JournalEnd}
    (h : ofRecord kind body = .error ending) (path : String) : ending.fault? path ≠ none := by
  unfold ofRecord at h
  repeat' split at h
  all_goals cases h
  all_goals simp [JournalEnd.fault?]

/-- If a log of records is replayed, all of them say something. -/
theorem speaks_of_fault?_eq_none {path : String} {records : List Bytes}
    (whole : ∀ bytes ∈ records, Sealed bytes)
    (replayed : (scan records.flatten).2.fault? path = none) :
    List.Forall₂ Speaks records (scan records.flatten).1 := by
  induction records with
  | nil =>
    rw [List.flatten_nil, scan_of_tail .complete]
    exact .nil
  | cons bytes records ih =>
    obtain ⟨kind, body, sealed⟩ := whole bytes List.mem_cons_self
    have read := readRecord_record sealed records.flatten
    rw [List.flatten_cons] at replayed ⊢
    cases meaning : ofRecord kind body with
    | error ending =>
      rw [meaning] at read
      have nonempty : bytes ++ records.flatten ≠ [] := by
        rw [((JournalEntry.record_eq_ok_iff _ _ _).1 sealed).2]
        simp [JournalEntry.front]
      rw [scan_of_error nonempty read] at replayed
      exact absurd replayed (fault?_of_ofRecord_error meaning path)
    | ok entry =>
      rw [meaning] at read
      rw [scan_of_ok read] at replayed ⊢
      refine .cons ⟨kind, body, sealed, (JournalEntry.ofRecord_eq_ok_iff _ _ _).1 meaning⟩ ?_
      exact ih (fun other ho => whole other (List.mem_cons_of_mem bytes ho)) replayed

/-- Reading stops at a record of which a byte behind the length of its body is changed. -/
theorem scan_of_changed {records : List Bytes} {entries : List JournalEntry}
    (speaking : List.Forall₂ Speaks records entries) {before behind : Bytes} {x y : UInt8}
    (whole : Sealed (before ++ x :: behind)) (outside : lengthSize ≤ before.length)
    (differ : x ≠ y) (rest : Bytes) :
    scan (records.flatten ++ (before ++ y :: behind ++ rest)) = (entries, .mismatch) := by
  obtain ⟨kind, body, sealed⟩ := whole
  obtain ⟨size, kind', stated, body', layout, length, wrong⟩ :=
    JournalEntry.exists_front_of_changed sealed outside differ
  rw [scan_of_records (records_of_speaks speaking), layout, List.append_assoc,
    scan_of_tail (.mismatch length wrong), List.append_nil]

end Journal

open Journal

namespace Durable

/-- A mailbox is loaded as what its log leads to, if it can be written anew. -/
theorem result_loadMailbox_eq {folder : DataFolder} {log : Bytes} (h : folder.journal? = some log) :
    (loadMailbox.run folder).result
      = (recover folder.journalPath log).bind fun mailbox =>
          (encode (compaction mailbox)).map fun _ => mailbox := by
  rw [result_loadMailbox h, recover]
  cases (scan log).2.fault? folder.journalPath <;> rfl

/-- Loading a mailbox from a log that is replayed finds no files that do not make sense. -/
theorem kind_ne_corruption_of_recover {folder : DataFolder} {log : Bytes} {mailbox : Mailbox}
    {e : StoreError} (present : folder.journal? = some log)
    (replayed : recover folder.journalPath log = .ok mailbox)
    (failed : (loadMailbox.run folder).result = .error e) : e.kind ≠ .corruption := by
  rw [result_loadMailbox_eq present, replayed, Except.bind] at failed
  cases written : encode (compaction mailbox) with
  | ok compacted =>
    rw [written] at failed
    cases failed
  | error fault =>
    rw [written] at failed
    cases failed
    rw [Journal.kind_of_encode_eq_error written]
    decide

/-- If a log of written records is replayed, and then one byte of a record is changed that is not one
of the length of its body, the log is replayed as the records before that one alone: the changed
record and all behind it have no effect, and are no fault. -/
theorem changed_byte_ends_log {records : List Bytes} (whole : ∀ bytes ∈ records, Sealed bytes)
    {path : String} {mailbox : Mailbox} (replayed : recover path records.flatten = .ok mailbox)
    {i p : Nat} (hi : i < records.length) (outside : JournalEntry.lengthSize ≤ p)
    (hp : p < records[i].length) {b : UInt8} (differ : b ≠ records[i][p]) :
    scan (records.set i (records[i].set p b)).flatten
        = ((scan records.flatten).1.take i, .mismatch) ∧
      (∃ earlier, ∀ path, recover path (records.take i).flatten = .ok earlier ∧
        recover path (records.set i (records[i].set p b)).flatten = .ok earlier) ∧
      ∀ folder : DataFolder,
        folder.journal? = some (records.set i (records[i].set p b)).flatten →
        (loadMailbox.run folder).result
            = (loadMailbox.run
                { folder with journal? := some (records.take i).flatten }).result ∧
          ∀ e, (loadMailbox.run folder).result = .error e → e.kind ≠ .corruption := by
  have harmless : (scan records.flatten).2.fault? path = none := by
    unfold recover at replayed
    split at replayed
    · cases replayed
    · assumption
  have speaking := List.forall₂_take i (speaks_of_fault?_eq_none whole harmless)
  -- the log before the changed record
  have before : scan (records.take i).flatten
      = ((scan records.flatten).1.take i, .complete) := by
    have read := scan_of_records (records_of_speaks speaking) []
    rwa [scan_of_tail .complete, List.append_nil, List.append_nil] at read
  -- the changed record between those before and those behind it
  have parts : records[i] = records[i].take p ++ records[i][p] :: records[i].drop (p + 1) := by
    rw [List.getElem_cons_drop, List.take_append_drop]
  have sealed := whole records[i] (List.getElem_mem hi)
  rw [parts] at sealed
  have layout : (records.set i (records[i].set p b)).flatten
      = (records.take i).flatten ++ (records[i].take p ++ b :: records[i].drop (p + 1)
        ++ (records.drop (i + 1)).flatten) := by
    rw [List.set_eq_take_append_cons_drop, if_pos hi, List.flatten_append, List.flatten_cons,
      List.set_eq_take_append_cons_drop, if_pos hp]
  have after := scan_of_changed speaking sealed
    (by rw [List.length_take]; omega) differ.symm (records.drop (i + 1)).flatten
  rw [← layout] at after
  have earlier : ∀ path,
      recover path (records.take i).flatten = .ok (replay ((scan records.flatten).1.take i)) ∧
        recover path (records.set i (records[i].set p b)).flatten
          = .ok (replay ((scan records.flatten).1.take i)) := by
    intro path
    rw [recover, recover, before, after]
    exact ⟨rfl, rfl⟩
  refine ⟨after, ⟨_, earlier⟩, ?_⟩
  intro folder present
  refine ⟨?_, fun e => kind_ne_corruption_of_recover present (earlier _).2⟩
  rw [result_loadMailbox_eq present, (earlier _).2, result_loadMailbox_eq rfl, (earlier _).1]

/-- A message and its removal, each as a record. With one byte of the removal's check value changed,
the message is there again. -/
theorem changed_byte_ends_log_removal :
    let message : StoredMessage := ⟨5, .ofBytes [1], .ofBytes [2], .file, [7]⟩
    let records := [JournalEntry.inserted message, .deleted 5].map fun entry =>
      entry.encode.toOption.getD []
    ∃ before after : Mailbox, recover "mailbox.log" records.flatten = .ok before ∧
      recover "mailbox.log" (records.set 1 (records[1].set 8 0)).flatten = .ok after ∧
      before.messages = [] ∧ after.messages = [message] := by
  intro message records
  have written : ∀ entry ∈ [JournalEntry.inserted message, .deleted 5],
      entry.encode = .ok (entry.encode.toOption.getD []) := by
    intro entry he
    have short : entry.body.length < 4294967296 := by
      revert entry
      decide +kernel
    obtain ⟨bytes, encoded⟩ := JournalEntry.exists_encode_of_length short
    rw [encoded]
    rfl
  have whole : ∀ bytes ∈ records, Sealed bytes := by
    intro bytes hb
    obtain ⟨entry, he, rfl⟩ := List.mem_map.1 hb
    exact ⟨entry.kind, entry.body, written entry he⟩
  have removal := (encode_cons_eq_ok_iff _ _ _).2
    ⟨_, _, written (.deleted 5) (by simp), encode_nil, rfl⟩
  have both := (encode_cons_eq_ok_iff _ _ _).2
    ⟨_, _, written (.inserted message) (by simp), removal, rfl⟩
  have first := (encode_cons_eq_ok_iff _ _ _).2
    ⟨_, _, written (.inserted message) (by simp), encode_nil, rfl⟩
  have replayed := recover_of_encode "mailbox.log" both
  obtain ⟨-, ⟨after, same⟩, -⟩ := changed_byte_ends_log whole replayed (i := 1) (p := 8) (by decide)
    (by decide) (by decide +kernel) (b := 0) (by decide +kernel)
  obtain ⟨alone, changed⟩ := same "mailbox.log"
  cases alone.symm.trans (recover_of_encode "mailbox.log" first)
  exact ⟨_, _, replayed, changed, by decide +kernel, by decide +kernel⟩

end Durable

end MessageRelay.Store
