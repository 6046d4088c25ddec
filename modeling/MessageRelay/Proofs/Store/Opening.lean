import MessageRelay.Proofs.Store.JournalGrammar

/-!
# Opening a folder with any files

Whatever stands in the files, opening reads them both before it writes anything, so that files which
cannot be opened keep their bytes (`state_openFolder_of_error`). The mailbox is loaded from the
whole records of its log alone, unless the log goes on with a whole record that means nothing
(`replays_whole_records`).
-/

set_option autoImplicit false

namespace MessageRelay.Store

open Journal (Records Tail scan replay encode compaction)

/-- The fault that the end of a log is, if it is one. -/
def JournalEnd.fault? (path : String) : JournalEnd → Option StoreError
  | .unknownRecord kind size => some (.unknownRecord kind size path)
  | .badMessage => some .badMessageRecord
  | .complete | .tornFront | .tornBody | .mismatch => none

/-- The end of a log can only be at fault for corruption. -/
theorem JournalEnd.kind_of_fault?_eq_some {path : String} {ending : JournalEnd} {fault : StoreError}
    (h : ending.fault? path = some fault) : fault.kind = .corruption := by
  cases ending <;> cases h <;> rfl

/-- An entry that cannot be written is one of a message that is too long. -/
theorem Journal.kind_of_encode_eq_error {entries : List JournalEntry} {e : StoreError}
    (h : encode entries = .error e) : e.kind = .invalid := by
  have single : ∀ {entry : JournalEntry} {e : StoreError},
      entry.encode = .error e → e.kind = .invalid := by
    intro entry e h
    unfold JournalEntry.encode JournalEntry.record at h
    split at h <;> cases h
    rfl
  induction entries generalizing e with
  | nil => cases h
  | cons entry entries ih =>
    rw [encode, List.mapM_cons] at h
    cases first : entry.encode with
    | error e' =>
      rw [first] at h
      cases h
      exact single first
    | ok bytes =>
      cases others : entries.mapM JournalEntry.encode with
      | error e' =>
        rw [first, others] at h
        cases h
        apply ih
        rw [encode, others]
        rfl
      | ok parts =>
        rw [first, others] at h
        cases h

namespace Durable

/-! ## The two files -/

/-- Loading the directory leaves the folder as it is. -/
theorem state_loadDirectory (folder : DataFolder) : (loadDirectory.run folder).state = folder := by
  simp only [loadDirectory, Action.run_bind, Action.run_look]
  cases folder.snapshot? with
  | none => rfl
  | some content =>
    simp only [Action.run_bind, Action.run_ofExcept]
    cases ofSnapshot? folder.snapshotPath content <;> rfl

/-- Noting the end of a log only fails or goes on. -/
theorem run_noteEnd (path : String) (applied : Nat) (ending : JournalEnd) (folder : DataFolder) :
    ((noteEnd path applied ending).run folder).state = folder ∧
      ((noteEnd path applied ending).run folder).result
        = match ending.fault? path with
          | some fault => .error fault
          | none => .ok () := by
  cases ending <;> exact ⟨rfl, rfl⟩

/-- A log is loaded as what its entries lead to if its end is no fault and the mailbox can be
written anew. -/
theorem result_loadMailbox {folder : DataFolder} {log : Bytes} (h : folder.journal? = some log) :
    (loadMailbox.run folder).result =
      match (scan log).2.fault? folder.journalPath with
      | some fault => .error fault
      | none => (encode (compaction (replay (scan log).1))).map fun _ => replay (scan log).1 := by
  obtain ⟨still, noted⟩ :=
    run_noteEnd folder.journalPath (scan log).1.length (scan log).2 folder
  simp only [loadMailbox, Action.run_bind, Action.run_look, h, Action.run_tellAll, noted, still]
  cases (scan log).2.fault? folder.journalPath with
  | some fault => rfl
  | none =>
    simp only [Action.run_tell, Action.run_pure, Action.run_ofExcept]
    cases encode (compaction (replay (scan log).1)) <;> rfl

/-- The log is not touched before all that can fail has been done. -/
theorem state_loadMailbox_of_error {folder : DataFolder} {e : StoreError}
    (h : (loadMailbox.run folder).result = .error e) : (loadMailbox.run folder).state = folder := by
  revert h
  simp only [loadMailbox, Action.run_bind, Action.run_look]
  cases journal : folder.journal? with
  | none =>
    simp only [Action.run_bind, Action.run_pure, Action.run_ofExcept]
    cases encode (compaction .empty) with
    | error fault => exact fun _ => rfl
    | ok compacted =>
      intro h
      cases h
  | some log =>
    obtain ⟨still, noted⟩ :=
      run_noteEnd folder.journalPath (scan log).1.length (scan log).2 folder
    simp only [Action.run_bind, Action.run_tellAll, noted, still]
    cases (scan log).2.fault? folder.journalPath with
    | some fault => exact fun _ => rfl
    | none =>
      simp only [Action.run_tell, Action.run_pure, Action.run_ofExcept]
      cases encode (compaction (replay (scan log).1)) with
      | error fault => exact fun _ => rfl
      | ok compacted =>
        intro h
        cases h

/-! ## The folder -/

/-- A folder is opened if both its files can be loaded; the fault of the clients comes first. -/
theorem result_openFolder (folder : DataFolder) :
    (openFolder.run folder).result.map (·.mailbox)
      = (loadDirectory.run folder).result.bind fun _ => (loadMailbox.run folder).result := by
  simp only [openFolder, Action.run_bind, state_loadDirectory]
  cases (loadDirectory.run folder).result with
  | error e => rfl
  | ok directory =>
    simp only [Except.bind]
    cases (loadMailbox.run folder).result <;> rfl

/-- A folder that cannot be opened stays as it is. -/
theorem state_openFolder_of_error {folder : DataFolder} {e : StoreError}
    (h : (openFolder.run folder).result = .error e) : (openFolder.run folder).state = folder := by
  revert h
  simp only [openFolder, Action.run_bind, state_loadDirectory]
  cases (loadDirectory.run folder).result with
  | error fault => exact fun _ => rfl
  | ok directory =>
    dsimp only
    cases loaded : (loadMailbox.run folder).result with
    | error fault => exact fun _ => state_loadMailbox_of_error loaded
    | ok mailbox =>
      intro h
      cases h

/-- Opening fails if the log cannot be loaded. -/
theorem exists_error_openFolder {folder : DataFolder} {fault : StoreError}
    (h : (loadMailbox.run folder).result = .error fault) :
    ∃ e, (openFolder.run folder).result = .error e ∧
      ((∃ directory, (loadDirectory.run folder).result = .ok directory) → e = fault) := by
  have opened := result_openFolder folder
  rw [h] at opened
  cases loaded : (loadDirectory.run folder).result with
  | error e =>
    rw [loaded] at opened
    refine ⟨e, ?_, ?_⟩
    · cases result : (openFolder.run folder).result <;> rw [result] at opened <;> cases opened
      rfl
    · rintro ⟨directory, read⟩
      cases read
  | ok directory =>
    rw [loaded] at opened
    refine ⟨fault, ?_, fun _ => rfl⟩
    cases result : (openFolder.run folder).result <;> rw [result] at opened <;> cases opened
    rfl

/-- Any bytes as a log are whole records and then a tail, no more records stand at their front, and
reading them looks at no byte that is not there. The mailbox is loaded as what the entries of the
records lead to, one after the other, unless the tail is a fault; then opening fails. Files that
are not opened keep their bytes. -/
theorem replays_whole_records (log : Bytes) :
    (∃ whole tail entries ending, log = whole ++ tail ∧ Records whole entries ∧
      Tail tail ending ∧
      (∀ whole' entries', Records whole' entries' → whole' <+: log →
        whole' <+: whole ∧ entries' <+: entries) ∧
      Journal.scanWithin log.length log = some (entries, ending) ∧
      ∀ folder : DataFolder, folder.journal? = some log →
        match ending.fault? folder.journalPath with
        | none =>
          let mailbox := entries.foldl JournalEntry.apply .empty
          (loadMailbox.run folder).result = (encode (compaction mailbox)).map (fun _ => mailbox) ∧
            ∀ e, encode (compaction mailbox) = .error e → e.kind = .invalid
        | some fault =>
          (loadMailbox.run folder).result = .error fault ∧ fault.kind = .corruption ∧
            ∃ e, (openFolder.run folder).result = .error e ∧
              ((∃ directory, (loadDirectory.run folder).result = .ok directory) → e = fault)) ∧
    ∀ (folder : DataFolder) (e : StoreError), (openFolder.run folder).result = .error e →
      (openFolder.run folder).state = folder := by
  refine ⟨?_, fun folder e => state_openFolder_of_error⟩
  obtain ⟨whole, tail, parts, records, ends⟩ := Journal.exists_records_tail log
  refine ⟨whole, tail, _, _, parts, records, ends, ?_, ?_, ?_⟩
  · intro whole' entries' records' front
    rw [parts] at front
    exact records'.longest records ends front
  · exact Journal.scanWithin_of_length_le (Nat.le_refl _)
  · intro folder present
    have loaded := result_loadMailbox present
    cases fault : (scan log).2.fault? folder.journalPath with
    | none =>
      rw [fault] at loaded
      exact ⟨loaded, fun e => Journal.kind_of_encode_eq_error⟩
    | some fault' =>
      rw [fault] at loaded
      exact ⟨loaded, JournalEnd.kind_of_fault?_eq_some fault, exists_error_openFolder loaded⟩

/-- Two messages and the removal of the first. With the torn front of another record behind them the
second message is loaded and the number after it comes next. With a record of kind 9 behind them the
log cannot be opened and stays as it is. -/
theorem replays_whole_records_tornOrUnknown :
    let note (id : UInt32) : StoredMessage := ⟨id, .ofBytes [2], .ofBytes [1], .textMessage, [42]⟩
    let torn : Bytes := [4, 0, 0, 0, 2]
    let unknown := JournalEntry.front 1 9 (JournalEntry.checksum 9 [7]) ++ [7]
    let folder (log : Bytes) : DataFolder := { DataFolder.empty "data" with journal? := some log }
    ∃ whole, encode [.inserted (note 6), .inserted (note 7), .deleted 6] = .ok whole ∧
      (∃ mailbox, (loadMailbox.run (folder (whole ++ torn))).result = .ok mailbox ∧
        mailbox.messages = [note 7] ∧ mailbox.nextId = 8) ∧
      (∃ fault, (openFolder.run (folder (whole ++ unknown))).result = .error fault ∧
        fault.kind = .corruption) ∧
      (openFolder.run (folder (whole ++ unknown))).state = folder (whole ++ unknown) := by
  intro note torn unknown folder
  let entries : List JournalEntry := [.inserted (note 6), .inserted (note 7), .deleted 6]
  have short : ∀ entry ∈ entries, entry.body.length < 4294967296 := by decide +kernel
  have written {entry : JournalEntry} (listed : entry ∈ entries) :
      ∃ bytes, entry.encode = .ok bytes := JournalEntry.exists_encode_of_length (short entry listed)
  obtain ⟨whole, encoded⟩ := Journal.exists_encode fun entry => written
  -- what stands behind the records adds no entry, and says how the log ends
  have read (tail : Bytes) {ending : JournalEnd} (ends : scan tail = ([], ending)) :
      Journal.scanWithin (whole ++ tail).length (whole ++ tail) = some (entries, ending) := by
    rw [Journal.scanWithin_of_length_le (Nat.le_refl _), Journal.scan_append encoded, ends,
      List.append_nil]
  refine ⟨whole, encoded, ?_, ?_⟩
  · obtain ⟨⟨-, -, found, ending, -, -, -, -, within, loads⟩, -⟩ :=
      replays_whole_records (whole ++ torn)
    have ends := read torn (Journal.scan_of_tail (.tornFront (by decide) (by decide)))
    cases ends.symm.trans within
    obtain ⟨loaded, -⟩ := loads (folder (whole ++ torn)) rfl
    obtain ⟨log, compacted⟩ : ∃ log, encode (compaction (replay entries)) = .ok log :=
      Journal.exists_encode_compaction fun message waits => written (Journal.mem_of_mem_replay waits)
    exact ⟨replay entries, loaded.trans (congrArg _ compacted), by decide, by decide⟩
  · obtain ⟨⟨-, -, found, ending, -, -, -, -, within, loads⟩, untouched⟩ :=
      replays_whole_records (whole ++ unknown)
    have ends : scan unknown = ([], .unknownRecord 9 1) := by
      have within := Journal.scanWithin_of_length_le (Nat.le_refl unknown.length)
      exact (Option.some.inj (within.symm.trans (by decide +kernel)))
    cases (read unknown ends).symm.trans within
    obtain ⟨-, kind, e, failed, first⟩ := loads (folder (whole ++ unknown)) rfl
    obtain rfl := first ⟨.empty, rfl⟩
    exact ⟨⟨_, failed, kind⟩, untouched _ _ failed⟩

end Durable

end MessageRelay.Store
