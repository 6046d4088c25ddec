import MessageRelay.Proofs.Store.Chronicle
import MessageRelay.Proofs.Store.LoadedDirectory
import MessageRelay.Proofs.Store.Opening
import MessageRelay.Proofs.Store.PlainCalls

/-!
# What a folder with any files is opened as

Opening a folder asks only that its files can be read: the uniqueness of identifiers, names and
numbers is seen to when clients are registered and messages are taken in, and not again. So the
directory is that of any records (`Directory.Loaded`), and of several messages with one number only
those of its last receiver can be removed. A number that was removed is gone for good all the same:
it cannot be removed again, and unless its messages waited for several clients none of them is left
(`Durable.opened_as_sound_as_files`).
-/

set_option autoImplicit false

namespace MessageRelay.Store

open Journal (scan replay encode compaction)
open Protocol (ClientId MessageType)

/-! ## Mailboxes of any messages -/

namespace Mailbox

/-- What holds in every mailbox that was filled from a log: no number of a message is handed out
again, and whoever owns a number has a message with it. -/
structure Stocked (mailbox : Mailbox) : Prop where
  below : ∀ message ∈ mailbox.messages, message.id < mailbox.nextId ∨ mailbox.nextId = lastId
  owned : ∀ id owner, mailbox.owners.find? id = some owner →
    ∃ message ∈ mailbox.messages, message.id = id ∧ message.target = owner

variable {mailbox mailbox' : Mailbox}

/-- An empty mailbox is stocked. -/
theorem stocked_empty : empty.Stocked where
  below := by simp [empty]
  owned := by simp [empty]

/-- No number is above the last one. -/
theorem le_lastId (id : UInt32) : id ≤ lastId := by
  rw [UInt32.le_iff_toNat_le]
  exact Nat.le_of_lt_succ id.toNat_lt

/-- A mailbox stays stocked when its next number is raised. -/
theorem Stocked.withNextId (stocked : mailbox.Stocked) {next : UInt32} (h : mailbox.nextId ≤ next) :
    { mailbox with nextId := next }.Stocked where
  below message waits := by
    obtain below | last := stocked.below message waits
    · exact .inl (UInt32.lt_of_lt_of_le below h)
    · rw [last] at h
      exact .inr (UInt32.le_antisymm (le_lastId next) h)
  owned := stocked.owned

/-- A mailbox stays stocked with another message, the number of which is below the next one or meets
the last one. -/
theorem Stocked.restore (stocked : mailbox.Stocked) {message : StoredMessage}
    (below : message.id < mailbox.nextId ∨ mailbox.nextId = lastId) :
    (mailbox.restore message).Stocked where
  below other waits := by
    obtain waits | new := List.mem_append.1 waits
    · exact stocked.below other waits
    · rw [List.mem_singleton.1 new]
      exact below
  owned id owner found := by
    simp only [Mailbox.restore, Table.find?_put] at found
    split at found
    · rename_i own
      exact ⟨message, by simp [Mailbox.restore], own, Option.some.inj found⟩
    · obtain ⟨other, waits, rest⟩ := stocked.owned id owner found
      exact ⟨other, List.mem_append_left _ waits, rest⟩

/-- Removing a number takes out what waits under it for its owner. -/
theorem mem_forget_iff {id : UInt32} {message : StoredMessage} :
    message ∈ (mailbox.forget id).messages ↔ message ∈ mailbox.messages ∧
      ∀ owner, mailbox.owners.find? id = some owner → message.id = id → message.target ≠ owner := by
  unfold forget
  cases found : mailbox.owners.find? id with
  | none => simp
  | some owner =>
    simp only [List.mem_filter, decide_eq_true_eq, not_and, Option.some.injEq, forall_eq']

/-- A mailbox stays stocked when it forgets a number. -/
theorem Stocked.forget (stocked : mailbox.Stocked) (id : UInt32) : (mailbox.forget id).Stocked where
  below message waits := by
    rw [nextId_forget]
    exact stocked.below message (mem_forget_iff.1 waits).1
  owned id' owner found := by
    rw [find?_owners_forget] at found
    split at found
    · cases found
    · rename_i other
      obtain ⟨message, waits, own, target⟩ := stocked.owned id' owner found
      refine ⟨message, mem_forget_iff.2 ⟨waits, fun _ _ same => ?_⟩, own, target⟩
      exact absurd (same.symm.trans own) other

/-- The number behind that of a message is above it, unless it is the last. -/
theorem lt_successor (id : UInt32) :
    id < JournalEntry.successor id ∨ JournalEntry.successor id = lastId := by
  unfold JournalEntry.successor
  split
  · exact .inr ‹id = lastId›
  · exact .inl (lt_next ‹id ≠ lastId›)

/-- Raising the next number to a bound leaves a mailbox stocked and reaches the bound. -/
theorem Stocked.raiseNextId (stocked : mailbox.Stocked) (next : UInt32) :
    (mailbox.raiseNextId next).Stocked ∧ next ≤ (mailbox.raiseNextId next).nextId := by
  unfold Mailbox.raiseNextId
  split
  · rename_i more
    exact ⟨stocked.withNextId (UInt32.le_of_lt more), UInt32.le_refl _⟩
  · rename_i enough
    exact ⟨stocked, UInt32.not_lt.1 enough⟩

/-- A mailbox stays stocked under any entry of a log. -/
theorem Stocked.apply (stocked : mailbox.Stocked) (entry : JournalEntry) :
    (JournalEntry.apply mailbox entry).Stocked := by
  cases entry with
  | inserted message =>
    obtain ⟨raised, reached⟩ := stocked.raiseNextId (JournalEntry.successor message.id)
    refine raised.restore ?_
    obtain below | last := lt_successor message.id
    · exact .inl (UInt32.lt_of_lt_of_le below reached)
    · exact .inr (UInt32.le_antisymm (le_lastId _) (le_of_eq_of_le last.symm reached))
  | deleted id => exact stocked.forget id
  | nextId id => exact (stocked.raiseNextId id).1

/-- Whatever a log says, the mailbox that it leads to is stocked. -/
theorem stocked_replay (entries : List JournalEntry) : (replay entries).Stocked := by
  induction entries using List.reverseRecOn with
  | nil => exact stocked_empty
  | append_singleton entries entry ih =>
    rw [Journal.replay_snoc]
    exact ih.apply entry

/-! ## Calls -/

/-- What a call does to a mailbox. -/
inductive Step (mailbox : Mailbox) : Mailbox → Prop where
  | still : Step mailbox mailbox
  | wasted (room : mailbox.nextId ≠ lastId) :
    Step mailbox { mailbox with nextId := mailbox.nextId + 1 }
  | taken (message : StoredMessage) (room : mailbox.nextId ≠ lastId)
    (own : message.id = mailbox.nextId) :
    Step mailbox ({ mailbox with nextId := mailbox.nextId + 1 }.restore message)
  | removed (id : UInt32) : Step mailbox (mailbox.forget id)

/-- A mailbox stays stocked under any call. -/
theorem Stocked.step (stocked : mailbox.Stocked) (step : mailbox.Step mailbox') :
    mailbox'.Stocked := by
  cases step with
  | still => exact stocked
  | wasted room => exact stocked.withNextId (UInt32.le_of_lt (lt_next room))
  | taken message room own =>
    refine (stocked.withNextId (UInt32.le_of_lt (lt_next room))).restore (.inl ?_)
    rw [own]
    exact lt_next room
  | removed id => exact stocked.forget id

/-- A number that belongs to nobody and is not handed out again. -/
structure Retired (id : UInt32) (mailbox : Mailbox) : Prop where
  unowned : mailbox.owners.find? id = none
  spent : id < mailbox.nextId ∨ mailbox.nextId = lastId

/-- Nothing that is called brings back a retired number or takes out a message that still has it. -/
theorem Retired.step {id : UInt32} (retired : Retired id mailbox) (step : mailbox.Step mailbox') :
    Retired id mailbox' ∧ ∀ message : StoredMessage, message.id = id →
      (message ∈ mailbox'.messages ↔ message ∈ mailbox.messages) := by
  obtain ⟨unowned, spent⟩ := retired
  have later (room : mailbox.nextId ≠ lastId) : id < mailbox.nextId ∧ id < mailbox.nextId + 1 := by
    have below := spent.resolve_right room
    exact ⟨below, UInt32.lt_trans below (lt_next room)⟩
  cases step with
  | still => exact ⟨⟨unowned, spent⟩, fun _ _ => Iff.rfl⟩
  | wasted room => exact ⟨⟨unowned, .inl (later room).2⟩, fun _ _ => Iff.rfl⟩
  | taken message room own =>
    have other : ¬ message.id = id := by
      rw [own]
      exact (UInt32.ne_of_lt (later room).1).symm
    refine ⟨⟨?_, .inl (later room).2⟩, fun old same => ?_⟩
    · simpa only [Mailbox.restore, Table.find?_put, if_neg other] using unowned
    · have differs : old ≠ message := fun equal => other (equal ▸ same)
      simp [Mailbox.restore, differs]
  | removed id' =>
    refine ⟨⟨?_, ?_⟩, fun message same => ?_⟩
    · rw [find?_owners_forget]
      split
      · rfl
      · exact unowned
    · rwa [nextId_forget]
    · rw [mem_forget_iff, and_iff_left_iff_imp]
      intro _ owner found own
      rw [← own, same, unowned] at found
      cases found

/-- All messages with one number wait for one client. -/
def OneReceiver (mailbox : Mailbox) : Prop :=
  ∀ a ∈ mailbox.messages, ∀ b ∈ mailbox.messages, a.id = b.id → a.target = b.target

/-- No call lets messages of one number wait for two clients. -/
theorem OneReceiver.step (single : mailbox.OneReceiver) (stocked : mailbox.Stocked)
    (step : mailbox.Step mailbox') : mailbox'.OneReceiver := by
  cases step with
  | still | wasted => exact single
  | taken message room own =>
    -- numbers are given out in order, so a new one is nobody's
    have fresh : ∀ other ∈ mailbox.messages, other.id ≠ message.id := by
      intro other waits
      rw [own]
      exact UInt32.ne_of_lt ((stocked.below other waits).resolve_right room)
    intro a ha b hb same
    obtain ha | ha := List.mem_append.1 ha
    · obtain hb | hb := List.mem_append.1 hb
      · exact single a ha b hb same
      · rw [List.mem_singleton.1 hb] at same
        exact absurd same (fresh a ha)
    · obtain hb | hb := List.mem_append.1 hb
      · rw [List.mem_singleton.1 ha] at same
        exact absurd same.symm (fresh b hb)
      · rw [List.mem_singleton.1 ha, List.mem_singleton.1 hb]
  | removed id =>
    intro a ha b hb same
    exact single a (mem_forget_iff.1 ha).1 b (mem_forget_iff.1 hb).1 same

end Mailbox

namespace Durable

/-! ## Runs -/

/-- The store after calls, each at its moment, of which any may fail. -/
def afterCalls (store : Durable) (calls : List (StoreCall × Timestamp)) : Durable :=
  calls.foldl (fun store call => ((call.1.perform call.2).run store).state) store

/-- Every call does to the mailbox one of the things that calls do. -/
theorem step_perform (call : StoreCall) (now : Timestamp) (store : Durable) :
    store.mailbox.Step ((call.perform now).run store).state.mailbox := by
  have effect := effect_perform now call store
  generalize ((call.perform now).run store).state = left at effect ⊢
  generalize ((call.perform now).run store).result = answer at effect
  cases effect with
  | wasted target sender type content e _ room fault =>
    rw [fault.mailbox_eq]
    exact .wasted room
  | taken target sender type content bytes room => exact .taken _ room rfl
  | unremoved id e _ fault =>
    rw [fault.mailbox_eq]
    exact .still
  | removed id => exact .removed id
  | asked | refused | occupied | unregistered | registered | unknown | unseen | seen | exhausted
  | absent => exact .still

/-- What every call preserves of a mailbox holds after all calls. -/
theorem holds_afterCalls {P : Mailbox → Prop}
    (preserved : ∀ {mailbox mailbox' : Mailbox}, P mailbox → mailbox.Step mailbox' → P mailbox')
    {store : Durable} (initial : P store.mailbox) (calls : List (StoreCall × Timestamp)) :
    P (store.afterCalls calls).mailbox := by
  induction calls generalizing store with
  | nil => exact initial
  | cons call calls ih => exact ih (preserved initial (step_perform call.1 call.2 store))

variable {store left : Durable} {id : UInt32}

/-- Over any calls, all messages with one number wait for one client. -/
theorem oneReceiver_afterCalls (stocked : store.mailbox.Stocked)
    (single : store.mailbox.OneReceiver) (calls : List (StoreCall × Timestamp)) :
    (store.afterCalls calls).mailbox.OneReceiver :=
  (holds_afterCalls (P := fun mailbox => mailbox.Stocked ∧ mailbox.OneReceiver)
    (fun h step => ⟨h.1.step step, h.2.step h.1 step⟩) ⟨stocked, single⟩ calls).2

/-- A retired number stays retired, and what still waits under it goes on waiting. -/
theorem retired_afterCalls (retired : Mailbox.Retired id store.mailbox)
    (calls : List (StoreCall × Timestamp)) :
    Mailbox.Retired id (store.afterCalls calls).mailbox ∧
      ∀ message : StoredMessage, message.id = id →
        (message ∈ (store.afterCalls calls).mailbox.messages
          ↔ message ∈ store.mailbox.messages) := by
  refine holds_afterCalls (P := fun mailbox => Mailbox.Retired id mailbox ∧
    ∀ message : StoredMessage, message.id = id →
      (message ∈ mailbox.messages ↔ message ∈ store.mailbox.messages)) ?_
    ⟨retired, fun _ _ => Iff.rfl⟩ calls
  rintro mailbox mailbox' ⟨retired, same⟩ step
  obtain ⟨retired', same'⟩ := retired.step step
  exact ⟨retired', fun message own => (same' message own).trans (same message own)⟩

/-! ## Removals -/

/-- Whether a removal finds a message with a number, and what it leaves then. -/
def Removes (id : UInt32) (store left : Durable) : Prop :=
  ((RelayStore.deleteMessage id).run store).result = .ok true ∧
    ((RelayStore.deleteMessage id).run store).state = left

/-- A removal takes out what waits under the number for one client, and retires the number. -/
theorem Removes.mailbox (removes : Removes id store left) : ∃ owner,
    store.mailbox.owners.find? id = some owner ∧ left.mailbox = store.mailbox.forget id := by
  obtain ⟨found, state⟩ := removes
  have outcome : RemovalOutcome id store.mailbox ((RelayStore.deleteMessage id).run store).result
      ((RelayStore.deleteMessage id).run store).state.mailbox := deleteMessage_outcome id store
  rw [found, state] at outcome
  generalize contains : Except.ok true = result at outcome
  generalize left.mailbox = mailbox at outcome ⊢
  cases outcome with
  | done =>
    obtain ⟨owner, own⟩ := Option.isSome_iff_exists.1 (Except.ok.inj contains).symm
    exact ⟨owner, own, rfl⟩
  | failed e => cases contains

/-- What is so for good after a number was removed from a mailbox. -/
structure Gone (id : UInt32) (before : Mailbox) (left : Durable) : Prop where
  /-- It cannot be removed again. -/
  refused : (RelayStore.deleteMessage id).run left = ⟨.ok false, left, []⟩
  /-- One of the clients for whom it waited has nothing left under it. -/
  freed : ∃ client, (∃ message ∈ before.unread client, message.id = id) ∧
    ∀ message ∈ left.mailbox.unread client, message.id ≠ id
  /-- Nobody has anything left under it exactly if it waited for nobody else. -/
  nowhere : (∀ client, ∀ message ∈ left.mailbox.unread client, message.id ≠ id) ↔
    ∀ a ∈ before.messages, ∀ b ∈ before.messages, a.id = id → b.id = id → a.target = b.target

/-- Removing a number that nobody owns finds nothing and changes nothing. -/
theorem run_deleteMessage_of_unowned (unowned : store.mailbox.owners.find? id = none) :
    (RelayStore.deleteMessage id).run store = ⟨.ok false, store, []⟩ := by
  have absent : store.mailbox.contains id = false := by
    simp [Mailbox.contains, Table.has, unowned]
  show (deleteMessage id).run store = _
  simp [deleteMessage, Action.run_bind, absent]

/-- What is left of a number for good after its removal are its messages to all clients but one. -/
theorem Removes.left_iff (removes : Removes id store left) (stocked : store.mailbox.Stocked)
    (later : List (StoreCall × Timestamp)) : ∃ first ∈ store.mailbox.messages, first.id = id ∧
      (left.afterCalls later).mailbox.owners.find? id = none ∧
      ∀ message : StoredMessage, message.id = id →
        (message ∈ (left.afterCalls later).mailbox.messages
          ↔ message ∈ store.mailbox.messages ∧ message.target ≠ first.target) := by
  obtain ⟨owner, own, forgotten⟩ := removes.mailbox
  obtain ⟨first, waits, rfl, rfl⟩ := stocked.owned id owner own
  have retired : Mailbox.Retired first.id left.mailbox := by
    rw [forgotten]
    constructor
    · rw [Mailbox.find?_owners_forget, if_pos rfl]
    · rw [Mailbox.nextId_forget]
      exact stocked.below first waits
  obtain ⟨⟨unowned, -⟩, kept⟩ := retired_afterCalls retired later
  refine ⟨first, waits, rfl, unowned, fun message same => ?_⟩
  rw [kept message same, forgotten, Mailbox.mem_forget_iff]
  simp [own, same]

/-- A message that was removed stays away over any later calls. -/
theorem Removes.gone (removes : Removes id store left) (stocked : store.mailbox.Stocked)
    (later : List (StoreCall × Timestamp)) : Gone id store.mailbox (left.afterCalls later) := by
  obtain ⟨first, waits, rfl, unowned, left_iff⟩ := removes.left_iff stocked later
  refine ⟨run_deleteMessage_of_unowned unowned, ?_, ?_, ?_⟩
  · refine ⟨first.target, ⟨first, Mailbox.mem_unread_iff.2 ⟨waits, rfl⟩, rfl⟩, ?_⟩
    intro message waits' same
    obtain ⟨listed, target⟩ := Mailbox.mem_unread_iff.1 waits'
    exact ((left_iff message same).1 listed).2 target
  · intro nowhere
    have only : ∀ a ∈ store.mailbox.messages, a.id = first.id → a.target = first.target := by
      intro a listed same
      by_contra other
      have waits' := Mailbox.mem_unread_iff.2 ⟨(left_iff a same).2 ⟨listed, other⟩, rfl⟩
      exact nowhere a.target a waits' same
    intro a ha b hb same same'
    rw [only a ha same, only b hb same']
  · intro only client message waits' same
    obtain ⟨listed, other⟩ := (left_iff message same).1 (Mailbox.mem_unread_iff.1 waits').1
    exact other (only message listed first waits same rfl)

/-! ## Folders -/

/-- The clients in the files of a folder. -/
def recordsIn (folder : DataFolder) : Except StoreError (List ClientRecord) :=
  match folder.snapshot? with
  | none => .ok []
  | some content => ofSnapshot? folder.snapshotPath content

/-- The entries in the log of a folder. -/
def entriesIn (folder : DataFolder) : List JournalEntry :=
  match folder.journal? with
  | none => []
  | some log => (scan log).1

/-- The directory is put together from the records in the folder. -/
theorem result_loadDirectory (folder : DataFolder) :
    (loadDirectory.run folder).result = (recordsIn folder).map .ofRecords := by
  simp only [loadDirectory, recordsIn, Action.run_bind, Action.run_look]
  cases folder.snapshot? with
  | none => rfl
  | some content =>
    simp only [Action.run_bind, Action.run_ofExcept]
    cases ofSnapshot? folder.snapshotPath content <;> rfl

/-- The mailbox that is loaded is what the entries in the folder lead to. -/
theorem eq_replay_of_loadMailbox {folder : DataFolder} {mailbox : Mailbox}
    (h : (loadMailbox.run folder).result = .ok mailbox) : mailbox = replay (entriesIn folder) := by
  unfold entriesIn
  cases journal : folder.journal? with
  | none =>
    simp only [loadMailbox, DataFolder.replaceJournal, Action.run_bind, Action.run_look, journal,
      Action.run_pure, Action.run_ofExcept, Journal.encode_compaction_empty,
      Action.run_change] at h
    cases h
    rfl
  | some log =>
    rw [result_loadMailbox journal] at h
    cases fault : (scan log).2.fault? folder.journalPath with
    | some e =>
      rw [fault] at h
      cases h
    | none =>
      rw [fault] at h
      dsimp only at h
      cases encoded : encode (compaction (replay (scan log).1)) <;> rw [encoded] at h <;> cases h
      rfl

/-- A folder is opened as the directory of its records and the mailbox of its entries. -/
theorem parts_of_openFolder {folder : DataFolder}
    (opened : (openFolder.run folder).result = .ok store) :
    (∃ records, recordsIn folder = .ok records ∧ store.directory = .ofRecords records) ∧
      store.mailbox = replay (entriesIn folder) := by
  simp only [openFolder, Action.run_bind, state_loadDirectory, result_loadDirectory] at opened
  cases read : recordsIn folder with
  | error e =>
    rw [read] at opened
    cases opened
  | ok records =>
    rw [read] at opened
    cases loaded : (loadMailbox.run folder).result with
    | error e =>
      simp only [Except.map, loaded] at opened
      cases opened
    | ok mailbox =>
      simp only [Except.map, loaded] at opened
      cases opened
      exact ⟨⟨records, rfl, rfl⟩, eq_replay_of_loadMailbox loaded⟩

/-- What a store is that was opened in a folder. -/
structure OpenedIn (folder : DataFolder) (store : Durable) : Prop where
  /-- Its directory is that of the records in the folder. -/
  clients : ∃ records, recordsIn folder = .ok records ∧ store.directory.Loaded records
  /-- A number that was removed is gone, whatever is called before and afterwards. -/
  removals : ∀ calls id left, Removes id (store.afterCalls calls) left → ∀ later,
    Gone id (store.afterCalls calls).mailbox (left.afterCalls later)
  /-- No message has the number of one that was removed if no two that were recovered have one
  number and different receivers, -/
  single : store.mailbox.OneReceiver → ∀ calls id left, Removes id (store.afterCalls calls) left →
    ∀ later client, ∀ message ∈ (left.afterCalls later).mailbox.unread client, message.id ≠ id
  /-- and these were in the log. -/
  recovered : ∀ message ∈ store.mailbox.messages, .inserted message ∈ entriesIn folder

/-- Whatever the files of a folder say, if it opens then its names lead to the identifiers in the
latest records under them, its clients are the latest records under their identifiers, and a number
that was removed is gone for good. -/
theorem opened_as_sound_as_files {folder : DataFolder}
    (opened : (openFolder.run folder).result = .ok store) : store.OpenedIn folder := by
  obtain ⟨⟨records, read, directory⟩, mailbox⟩ := parts_of_openFolder opened
  have stocked : store.mailbox.Stocked := mailbox ▸ Mailbox.stocked_replay _
  have removals : ∀ calls id left, Removes id (store.afterCalls calls) left → ∀ later,
      Gone id (store.afterCalls calls).mailbox (left.afterCalls later) :=
    fun calls id left removes => removes.gone (holds_afterCalls Mailbox.Stocked.step stocked calls)
  refine ⟨⟨records, read, directory ▸ Directory.loaded_ofRecords records⟩, removals, ?_, ?_⟩
  · intro single calls id left removes later
    refine (removals calls id left removes later).nowhere.2 fun a ha b hb same same' => ?_
    exact oneReceiver_afterCalls stocked single calls a ha b hb (same.trans same'.symm)
  · intro message waits
    rw [mailbox] at waits
    exact Journal.mem_of_mem_replay waits

/-! ## Folders with repeats -/

/-- The folder with a file of records and a log. -/
def holding (records : List ClientRecord) (log : Bytes) : DataFolder :=
  { DataFolder.empty "data" with
    snapshot? := some (Json.array (records.map ClientRecord.toJson)).pretty
    journal? := some log }

/-- Any records and any entries that can be written can be opened. -/
theorem openFolder_holding (records : List ClientRecord) {entries : List JournalEntry}
    {log : Bytes} (written : encode entries = .ok log) : ∃ store : Durable,
    (openFolder.run (holding records log)).result = .ok store ∧ store.Quiet ∧
      store.directory = .ofRecords records ∧ store.mailbox = replay entries := by
  obtain ⟨left, compacted⟩ : ∃ left, encode (compaction (replay entries)) = .ok left :=
    Journal.exists_encode_compaction fun message waits =>
      Journal.exists_encode_of_mem written (Journal.mem_of_mem_replay waits)
  refine ⟨⟨holding records left, .ofRecords records, replay entries⟩, ?_, ⟨rfl, rfl⟩, rfl, rfl⟩
  simp [openFolder, loadDirectory, loadMailbox, DataFolder.replaceJournal, Action.run_bind,
    holding, DataFolder.empty, ofSnapshot?_pretty, Journal.scan_encode written, noteEnd, compacted]

/-- A number that is known can be removed where nothing fails. -/
theorem exists_removes (quiet : store.Quiet) (known : store.mailbox.contains id = true) :
    ∃ left, Removes id store left ∧ left.mailbox = store.mailbox.forget id := by
  obtain ⟨bytes, encoded, run⟩ | ⟨e, store', fault, -⟩ :=
    record_outcome (.deleted id) (store.mailbox.forget id) store
  · have removed : (RelayStore.deleteMessage id).run store
        = ⟨.ok true, store.recorded bytes (store.mailbox.forget id),
            store.mailbox.forgetNews id⟩ := by
      show (deleteMessage id).run store = _
      simp [deleteMessage, Action.run_bind, known, run]
    refine ⟨store.recorded bytes (store.mailbox.forget id), ?_, rfl⟩
    rw [Removes, removed]
    exact ⟨rfl, rfl⟩
  · exact absurd fault (quiet.no_fault (exists_encode_deleted id))

/-- Two clients with one identifier, the later of which could not be registered. -/
def namesakes : List ClientRecord :=
  let dawn : Timestamp := ⟨⟨2026, 3, 21, by decide⟩, 5, 15, 0, 0, by decide⟩
  [⟨.ofBytes [1], "alice", List.replicate Protocol.publicKeySize 1, dawn⟩,
    ⟨.ofBytes [1], "", [], dawn⟩]

/-- Messages to two clients with one number. -/
def twins : List JournalEntry :=
  [.inserted ⟨5, .ofBytes [2], .ofBytes [1], .textMessage, [42]⟩,
    .inserted ⟨5, .ofBytes [3], .ofBytes [1], .textMessage, [42]⟩]

/-- The log with two messages of one number can be written. -/
theorem exists_encode_twins : ∃ log, encode twins = .ok log := by
  apply Journal.exists_encode
  intro entry listed
  apply JournalEntry.exists_encode_of_length
  revert entry
  decide +kernel

/-- A folder in which a name leads to a client with another name, and in which a number that two
messages have is gone after one removal. -/
theorem opened_as_sound_as_files_repeats : ∃ log store,
    encode twins = .ok log ∧ (openFolder.run (holding namesakes log)).result = .ok store ∧
      store.OpenedIn (holding namesakes log) ∧
      (∃ left, Removes 5 store left ∧ Gone 5 store.mailbox left) ∧
      ∃ record ∈ store.directory.sorted, record.id = .ofBytes [1] ∧
        store.directory.keyOf? "alice" = some record.publicKey := by
  obtain ⟨log, written⟩ := exists_encode_twins
  obtain ⟨store, opened, quiet, directory, mailbox⟩ := openFolder_holding namesakes written
  have sound := opened_as_sound_as_files opened
  have known : store.mailbox.contains 5 = true := by
    rw [mailbox]
    rfl
  obtain ⟨left, removes, -⟩ := exists_removes quiet known
  refine ⟨log, store, written, opened, sound, ⟨left, removes, sound.removals [] 5 left removes []⟩,
    ?_⟩
  obtain ⟨records, read, loaded⟩ := sound.clients
  exact loaded.keyed "alice" (.ofBytes [1]) (by rw [directory]; rfl)

/-- That folder opens, but the name leads to no client that has it, the client that is listed could
not be registered, and a message waits under the number that was removed. -/
theorem opened_not_sound : ∃ log store,
    encode twins = .ok log ∧ (openFolder.run (holding namesakes log)).result = .ok store ∧
      (¬ ∀ name id, store.directory.idOf? name = some id ↔
        ∃ record ∈ store.directory.sorted, record.id = id ∧ record.name = name) ∧
      (¬ ∀ record ∈ store.directory.sorted,
        Directory.checkFields record.name record.publicKey = .ok ()) ∧
      ¬ ∀ id left, Removes id store left →
        ∀ client, ∀ message ∈ left.mailbox.unread client, message.id ≠ id := by
  obtain ⟨log, written⟩ := exists_encode_twins
  obtain ⟨store, opened, quiet, directory, mailbox⟩ := openFolder_holding namesakes written
  refine ⟨log, store, written, opened, ?_, ?_, ?_⟩
  · intro agrees
    rw [directory] at agrees
    obtain ⟨record, listed, -, name⟩ := (agrees "alice" (.ofBytes [1])).1 rfl
    revert record
    decide +kernel
  · rw [directory]
    decide +kernel
  · intro nowhere
    have known : store.mailbox.contains 5 = true := by
      rw [mailbox]
      rfl
    obtain ⟨left, removes, forgotten⟩ := exists_removes quiet known
    have waits : ⟨5, .ofBytes [2], .ofBytes [1], .textMessage, [42]⟩
        ∈ left.mailbox.unread (.ofBytes [2]) := by
      rw [forgotten, mailbox]
      decide +kernel
    exact nowhere 5 left removes _ _ waits rfl

end Durable

end MessageRelay.Store
