import MessageRelay.Proofs.Store.CallEffect
import MessageRelay.Proofs.Store.JournalReplay

/-!
# What a folder holds

A folder holds clients through its snapshot, and messages and a next number through its log, even if
the log ends in the front of a record. A running store is sound if its folder holds what is in its
memory; only the next number in the folder may lag behind. A sound store keeps its contents when it
is closed: a folder that holds contents is opened as a sound store with just these contents.
-/

set_option autoImplicit false

namespace MessageRelay.Store

/-! ## Folders -/

/-- The entries that are found in a log which may end in the front of a record. -/
def Journal.Legible (log? : Option Bytes) (entries : List JournalEntry) : Prop :=
  (log? = none ∧ entries = []) ∨
    ∃ log, log? = some log ∧ (scan log).1 = entries ∧ JournalEnd.Harmless (scan log).2

namespace DataFolder

/-- The snapshot of a folder gives these clients. -/
def HoldsClients (folder : DataFolder) (clients : List ClientRecord) : Prop :=
  (folder.snapshot? = none ∧ clients = []) ∨
    ∃ directory : Directory, directory.Consistent ∧ clients = directory.sorted ∧
      folder.snapshot? = some (Durable.snapshotOf directory)

/-- The log of a folder gives these messages, and the number that comes next. -/
def HoldsMessages (folder : DataFolder) (messages : List StoredMessage) (next : UInt32) : Prop :=
  ∃ entries, Journal.Legible folder.journal? entries ∧
    (∀ entry ∈ entries, ∃ bytes, entry.encode = .ok bytes) ∧
    (Journal.replay entries).WellKept ∧
    messages = (Journal.replay entries).messages ∧ next = (Journal.replay entries).nextId

/-- What a folder keeps for the next store that is opened from it. -/
structure Holds (folder : DataFolder) (contents : Contents) (next : UInt32) : Prop where
  clients : folder.HoldsClients contents.clients
  messages : folder.HoldsMessages contents.messages next

/-- A folder without files holds nothing. -/
theorem holds_nothing {folder : DataFolder} (noSnapshot : folder.snapshot? = none)
    (noJournal : folder.journal? = none) : folder.Holds .empty 1 where
  clients := .inl ⟨noSnapshot, rfl⟩
  messages := ⟨[], .inl ⟨noJournal, rfl⟩, by simp, Mailbox.wellKept_empty, rfl, rfl⟩

end DataFolder

namespace Durable

/-- The clients and the messages of a store in files. -/
def contents (store : Durable) : Contents :=
  .of store.directory store.mailbox

/-- The folder of a store holds the contents of its memory, and `next` is the number that comes
next there. -/
structure Sound (store : Durable) (next : UInt32) : Prop where
  consistent : store.directory.Consistent
  kept : store.mailbox.WellKept
  snapshot : (store.folder.snapshot? = none ∧ store.directory.sorted = []) ∨
    store.folder.snapshot? = some (snapshotOf store.directory)
  journal : ∃ entries log, store.folder.journal? = some log ∧ Journal.encode entries = .ok log ∧
    (Journal.replay entries).WellKept ∧
    (Journal.replay entries).messages = store.mailbox.messages ∧
    (Journal.replay entries).nextId = next
  bound : next ≤ store.mailbox.nextId

/-- The folder of a sound store holds the contents of the store. -/
theorem Sound.holds {store : Durable} {next : UInt32} (sound : store.Sound next) :
    store.folder.Holds store.contents next where
  clients := by
    obtain absent | present := sound.snapshot
    · exact .inl absent
    · exact .inr ⟨store.directory, sound.consistent, rfl, present⟩
  messages := by
    obtain ⟨entries, log, written, encoded, kept, messages, next⟩ := sound.journal
    have read := Journal.scan_encode encoded
    refine ⟨entries, .inr ⟨log, written, ?_, ?_⟩, ?_, kept, messages.symm, next.symm⟩
    · rw [read]
    · rw [read]
      exact .inl rfl
    · intro entry he
      exact Journal.exists_encode_of_mem encoded he

/-! ## Opening -/

/-- From a folder that holds clients, a directory of these clients is loaded, and the folder stays
as it is. -/
theorem loadDirectory_of_holds {folder : DataFolder} {clients : List ClientRecord}
    (h : folder.HoldsClients clients) :
    ∃ directory : Directory, (loadDirectory.run folder).result = .ok directory ∧
      (loadDirectory.run folder).state = folder ∧ directory.Consistent ∧
      directory.sorted = clients ∧
      ((folder.snapshot? = none ∧ directory.sorted = []) ∨
        folder.snapshot? = some (snapshotOf directory)) := by
  obtain ⟨absent, rfl⟩ | ⟨directory, consistent, rfl, present⟩ := h
  · have sorted : Directory.empty.sorted = [] := by simp [Directory.sorted, Directory.empty]
    refine ⟨.empty, ?_, ?_, Directory.consistent_empty, sorted, .inl ⟨absent, sorted⟩⟩
    · simp [loadDirectory, Action.run_bind, absent]
    · simp [loadDirectory, Action.run_bind, absent]
  · obtain ⟨consistent', -, sorted⟩ := consistent.ofRecords_sorted
    have read := ofSnapshot?_snapshotOf folder.snapshotPath directory
    refine ⟨.ofRecords directory.sorted, ?_, ?_, consistent', sorted, .inr ?_⟩
    · simp [loadDirectory, Action.run_bind, present, read]
    · simp [loadDirectory, Action.run_bind, present, read]
    · rw [present, snapshotOf, snapshotOf, sorted]

/-- A harmless end of a log is noted without an error. -/
theorem noteEnd_of_harmless (path : String) (applied : Nat) {ending : JournalEnd}
    (h : Journal.JournalEnd.Harmless ending) (folder : DataFolder) :
    ((noteEnd path applied ending).run folder).result = .ok () ∧
      ((noteEnd path applied ending).run folder).state = folder := by
  obtain rfl | rfl | rfl := h <;> exact ⟨rfl, rfl⟩

/-- From a folder that holds messages, a mailbox of these messages is loaded, and the log is
compacted. -/
theorem loadMailbox_of_holds {folder : DataFolder} {messages : List StoredMessage} {next : UInt32}
    (h : folder.HoldsMessages messages next) :
    ∃ mailbox log, (loadMailbox.run folder).result = .ok mailbox ∧
      (loadMailbox.run folder).state = { folder with journal? := some log } ∧
      mailbox.WellKept ∧ mailbox.messages = messages ∧ mailbox.nextId = next ∧
      Journal.encode (Journal.compaction mailbox) = .ok log := by
  obtain ⟨entries, legible, encodable, kept, rfl, rfl⟩ := h
  obtain ⟨log, encoded⟩ := Journal.exists_encode_compaction fun message hm =>
    encodable _ (Journal.mem_of_mem_replay hm)
  refine ⟨Journal.replay entries, log, ?_⟩
  obtain ⟨absent, rfl⟩ | ⟨old, present, rfl, harmless⟩ := legible
  · have run : loadMailbox.run folder
        = ⟨.ok .empty, { folder with journal? := some log }, []⟩ := by
      have encoded : Journal.encode (Journal.compaction .empty) = .ok log := encoded
      simp [loadMailbox, DataFolder.replaceJournal, Action.run_bind, absent, encoded]
    rw [run]
    exact ⟨rfl, rfl, kept, rfl, rfl, encoded⟩
  · obtain ⟨noted, still⟩ := noteEnd_of_harmless folder.journalPath (Journal.scan old).1.length
      harmless folder
    refine ⟨?_, ?_, kept, rfl, rfl, encoded⟩ <;>
      simp only [loadMailbox, DataFolder.replaceJournal, Action.run_bind, Action.run_look, present,
        Action.run_tellAll, noted, still, Action.run_tell, Action.run_pure, Action.run_ofExcept, encoded,
        Action.run_change]

/-- A folder is opened as a store with what it holds, and holds it still. -/
theorem openFolder_of_holds {folder : DataFolder} {contents : Contents} {next : UInt32}
    (h : folder.Holds contents next) :
    ∃ store : Durable, (openFolder.run folder).result = .ok store ∧
      (openFolder.run folder).state = store.folder ∧ store.Sound next ∧
      store.contents = contents ∧ store.mailbox.nextId = next ∧
      ∃ log, store.folder = { folder with journal? := some log } := by
  obtain ⟨directory, loaded, same, consistent, sorted, snapshot⟩ := loadDirectory_of_holds h.clients
  obtain ⟨mailbox, log, opened, replaced, kept, messages, nextId, encoded⟩ :=
    loadMailbox_of_holds h.messages
  have compacted := Journal.replay_compaction kept
  refine ⟨⟨{ folder with journal? := some log }, directory, mailbox⟩, ?_, ?_, ?_, ?_, nextId,
    log, rfl⟩
  · simp only [openFolder, Action.run_bind, loaded, same, opened, replaced, Action.run_look,
      Action.run_pure]
  · simp only [openFolder, Action.run_bind, loaded, same, opened, replaced, Action.run_look,
      Action.run_pure]
  · exact {
      consistent := consistent
      kept := kept
      snapshot := snapshot
      journal := ⟨_, log, rfl, encoded, compacted.1, compacted.2.1, compacted.2.2.trans nextId⟩
      bound := UInt32.le_of_eq nextId.symm }
  · rw [Durable.contents, Contents.of, sorted, messages]

/-! ## Calls -/

/-- How a call changes the files of a folder: the snapshot alone, if anything, or the log by one
record. -/
inductive FileChange (folder folder' : DataFolder) : Prop where
  | snapshot (journal : folder'.journal? = folder.journal?)
  | record (entry : JournalEntry) (bytes : Bytes) (encoded : entry.encode = .ok bytes)
    (snapshot : folder'.snapshot? = folder.snapshot?)
    (journal : folder'.journal? = some (folder.journal?.getD [] ++ bytes))

/-- What a call leaves of a sound store. -/
structure Advance (store : Durable) (next : UInt32) (contents : Contents) (store' : Durable)
    (next' : UInt32) : Prop where
  sound : store'.Sound next'
  contents : store'.contents = contents
  next : next ≤ next'
  files : FileChange store.folder store'.folder

/-- A call that changes nothing advances a sound store to itself. -/
theorem Sound.still {store : Durable} {next : UInt32} (sound : store.Sound next) :
    store.Advance next store.contents store next :=
  ⟨sound, rfl, UInt32.le_refl _, .snapshot rfl⟩

/-- A snapshot that cannot be written leaves the contents of a sound store. -/
theorem Sound.spent {store : Durable} {next : UInt32} (sound : store.Sound next) :
    store.Advance next store.contents store.spent next :=
  ⟨⟨sound.consistent, sound.kept, sound.snapshot, sound.journal, sound.bound⟩, rfl,
    UInt32.le_refl _, .snapshot rfl⟩

/-- A number that is taken in memory leaves the contents of a sound store. -/
theorem Sound.allocated {store : Durable} {next : UInt32} (sound : store.Sound next)
    (room : store.mailbox.nextId ≠ Mailbox.lastId) :
    store.Advance next store.contents store.allocated next := by
  have grown := UInt32.le_of_lt (Mailbox.lt_next room)
  refine ⟨?_, rfl, UInt32.le_refl _, .snapshot rfl⟩
  exact ⟨sound.consistent, sound.kept.withNextId grown, sound.snapshot, sound.journal,
    UInt32.le_trans sound.bound grown⟩

/-- A record that cannot be written leaves the contents of a sound store. -/
theorem Sound.fault {store store' : Durable} {next : UInt32} {entry : JournalEntry}
    {e : StoreError} (sound : store.Sound next) (fault : RecordFault entry store e store') :
    store.Advance next store.contents store' next := by
  cases fault with
  | tooLarge e h => exact sound.still
  | noRoom bytes room rooms encoded h short =>
    refine ⟨?_, rfl, UInt32.le_refl _, .snapshot rfl⟩
    exact ⟨sound.consistent, sound.kept, sound.snapshot, sound.journal, sound.bound⟩

/-- A snapshot that is written puts its clients into the contents of a sound store. -/
theorem Sound.committed {store : Durable} {next : UInt32} (sound : store.Sound next)
    {directory : Directory} (consistent : directory.Consistent) :
    store.Advance next ⟨directory.sorted, store.mailbox.messages⟩ (store.committed directory)
      next := by
  refine ⟨?_, rfl, UInt32.le_refl _, .snapshot rfl⟩
  exact ⟨consistent, sound.kept, .inr rfl, sound.journal, sound.bound⟩

/-- A record keeps a store sound if replaying it does to the messages what was done in memory. -/
theorem Sound.recorded {store : Durable} {next next' : UInt32} (sound : store.Sound next)
    {entry : JournalEntry} {bytes : Bytes} {mailbox : Mailbox}
    (encoded : entry.encode = .ok bytes) (kept : mailbox.WellKept)
    (replayed : ∀ before : Mailbox, before.WellKept → before.messages = store.mailbox.messages →
      before.nextId = next → (JournalEntry.apply before entry).WellKept ∧
        (JournalEntry.apply before entry).messages = mailbox.messages ∧
        (JournalEntry.apply before entry).nextId = next')
    (grown : next ≤ next') (bound : next' ≤ mailbox.nextId) :
    store.Advance next ⟨store.directory.sorted, mailbox.messages⟩ (store.recorded bytes mailbox)
      next' := by
  obtain ⟨entries, log, written, encodedLog, keptLog, messages, nextId⟩ := sound.journal
  have later := replayed _ keptLog messages nextId
  rw [← Journal.replay_snoc] at later
  refine ⟨?_, rfl, grown, .record entry bytes encoded rfl rfl⟩
  refine ⟨sound.consistent, kept, sound.snapshot, ?_, bound⟩
  refine ⟨entries ++ [entry], log ++ bytes, ?_, Journal.encode_snoc encodedLog encoded, later⟩
  simp [Durable.recorded, written]

/-- Replaying the message under the number that memory hands out. -/
theorem Sound.taken {store : Durable} {next : UInt32} (sound : store.Sound next)
    {message : StoredMessage} {bytes : Bytes} (room : store.mailbox.nextId ≠ Mailbox.lastId)
    (hid : message.id = store.mailbox.nextId)
    (encoded : (JournalEntry.inserted message).encode = .ok bytes) :
    store.Advance next ⟨store.directory.sorted, store.mailbox.messages ++ [message]⟩
      (store.recorded bytes (store.allocated.mailbox.restore message))
      (store.mailbox.nextId + 1) := by
  have grown := Mailbox.lt_next room
  have above : ∀ other ∈ store.mailbox.messages, other.id < message.id := by
    intro other ho
    rw [hid]
    exact sound.kept.numbered other ho
  have lag : next < store.mailbox.nextId + 1 := UInt32.lt_of_le_of_lt sound.bound grown
  refine sound.recorded encoded (sound.kept.take room hid) ?_ (UInt32.le_of_lt lag)
    (UInt32.le_refl _)
  intro before kept messages nextId
  rw [← messages] at above
  obtain ⟨kept', messages', nextId'⟩ := Journal.apply_inserted kept above (hid ▸ room)
  refine ⟨kept', ?_, ?_⟩
  · rw [messages', messages]
    rfl
  · rw [nextId', nextId, hid, if_pos lag]

/-- A removal that is recorded takes the message out of the contents of a sound store. -/
theorem Sound.removed {store : Durable} {next : UInt32} (sound : store.Sound next) {id : UInt32}
    {bytes : Bytes} (encoded : (JournalEntry.deleted id).encode = .ok bytes) :
    store.Advance next
      ⟨store.directory.sorted, store.mailbox.messages.filter fun message => message.id ≠ id⟩
      (store.recorded bytes (store.mailbox.forget id)) next := by
  rw [← sound.kept.messages_forget]
  refine sound.recorded encoded (sound.kept.forget id) ?_ (UInt32.le_refl _) ?_
  · intro before kept messages nextId
    refine ⟨kept.forget id, ?_, (Mailbox.nextId_forget before id).trans nextId⟩
    rw [JournalEntry.apply, kept.messages_forget, sound.kept.messages_forget, messages]
  · rw [Mailbox.nextId_forget]
    exact sound.bound

/-- A call takes a sound store to a sound store with the contents that its answer tells. A number
that it gives was not below the next one in the folder. -/
theorem Sound.effect {store store' : Durable} {next : UInt32} (sound : store.Sound next)
    {now : Timestamp} {call : StoreCall} {answer : StoreAnswer}
    (effect : Effect now store call answer store') :
    store.Advance next (store.contents.after now call answer) store' (numberAfter next answer) ∧
      ∀ id ∈ numbersOf answer, next ≤ id ∧ id < numberAfter next answer := by
  cases effect with
  | asked question => cases question <;> exact ⟨sound.still, by simp [numbersOf, Question.lookUp]⟩
  | refused | occupied | unknown | exhausted | absent =>
    exact ⟨sound.still, by simp [numbersOf]⟩
  | unregistered | unseen => exact ⟨sound.spent, by simp [numbersOf]⟩
  | registered id name key directory h =>
    obtain ⟨fresh, rfl⟩ := sound.consistent.insert?_eq_some h
    have advance := sound.committed (sound.consistent.restore fresh)
    rw [sound.consistent.sorted_restore fresh] at advance
    exact ⟨advance, by simp [numbersOf]⟩
  | seen id before directory h =>
    have advance := sound.committed (sound.consistent.see h).2.2
    rw [sound.consistent.sorted_see h] at advance
    exact ⟨advance, by simp [numbersOf]⟩
  | wasted target sender type content e _ room fault =>
    have waste := sound.allocated room
    have advance := waste.sound.fault fault
    exact ⟨⟨advance.sound, advance.contents, advance.next, advance.files⟩, by simp [numbersOf]⟩
  | taken target sender type content bytes room encoded =>
    refine ⟨sound.taken room rfl encoded, ?_⟩
    intro id given
    rw [List.mem_singleton.1 given]
    exact ⟨sound.bound, Mailbox.lt_next room⟩
  | unremoved id e _ fault => exact ⟨sound.fault fault, by simp [numbersOf]⟩
  | removed id bytes h encoded => exact ⟨sound.removed encoded, by simp [numbersOf]⟩

end Durable

end MessageRelay.Store
