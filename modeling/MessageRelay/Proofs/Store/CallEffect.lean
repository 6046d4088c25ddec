import MessageRelay.Proofs.Store.StoreCall
import MessageRelay.Store.Durable

/-!
# What a call does to a store in files

Every change of a store in files goes through one of two writes: of the snapshot, which succeeds
unless a failure of it is planned, and of a record, which succeeds unless the record is too large or
the log has no room for it. From what the writes do, every call has one of a few effects, listed with
the condition of each. Proofs about stores in files go by these effects and look at no operation
again.
-/

set_option autoImplicit false

namespace MessageRelay.Store

open Protocol (ClientId MessageType)

namespace Durable

/-! ## Writes -/

/-- The store whose next failure of a snapshot is used up. -/
def spent (store : Durable) : Durable :=
  { store with
    folder := { store.folder with snapshotFaults := store.folder.snapshotFaults.tail } }

/-- The store with a directory that was written. -/
def committed (directory : Directory) (store : Durable) : Durable :=
  { store with
    folder := { store.folder with
      snapshotFaults := store.folder.snapshotFaults.tail
      snapshot? := some (snapshotOf directory) }
    directory }

/-- The store with a mailbox to which the last record in the log has led. -/
def recorded (bytes : Bytes) (mailbox : Mailbox) (store : Durable) : Durable :=
  { store with
    folder := { store.folder with
      rooms := store.folder.rooms.tail
      journal? := some (store.folder.journal?.getD [] ++ bytes) }
    mailbox }

/-- A snapshot that cannot be written leaves the store as it is, one attempt poorer. -/
theorem run_commit_of_fault (directory : Directory) {store : Durable}
    (h : store.folder.snapshotFaults.head? = some true) :
    (commit directory).run store = ⟨.error .fileAccess, store.spent, []⟩ := by
  obtain ⟨faults, hf⟩ := List.head?_eq_some_iff.1 h
  simp [commit, onFolder, DataFolder.writeSnapshot, Action.run_bind, hf, spent]

/-- A snapshot that can be written is written, with the directory in memory. -/
theorem run_commit (directory : Directory) {store : Durable}
    (h : store.folder.snapshotFaults.head? ≠ some true) :
    (commit directory).run store = ⟨.ok (), store.committed directory, []⟩ := by
  cases hf : store.folder.snapshotFaults with
  | nil => simp [commit, onFolder, DataFolder.writeSnapshot, Action.run_bind, hf, committed]
  | cons fault faults =>
    cases fault with
    | false => simp [commit, onFolder, DataFolder.writeSnapshot, Action.run_bind, hf, committed]
    | true =>
      rw [hf] at h
      exact absurd rfl h

/-- Why a record is not written, and what the attempt leaves. -/
inductive RecordFault (entry : JournalEntry) (store : Durable) : StoreError → Durable → Prop where
  | tooLarge (e : StoreError) (h : entry.encode = .error e) : RecordFault entry store e store
  | noRoom (bytes : Bytes) (room : Nat) (rooms : List Nat) (encoded : entry.encode = .ok bytes)
    (h : store.folder.rooms = room :: rooms) (short : room < bytes.length) :
    RecordFault entry store .fileAccess
      { store with folder := { store.folder with rooms := rooms } }

/-- A record is written, or there is a reason why it is not. -/
theorem record_outcome (entry : JournalEntry) (mailbox : Mailbox) (store : Durable) :
    (∃ bytes, entry.encode = .ok bytes ∧
      (record entry mailbox).run store = ⟨.ok (), store.recorded bytes mailbox, []⟩) ∨
    ∃ e store', RecordFault entry store e store' ∧
      (record entry mailbox).run store = ⟨.error e, store', []⟩ := by
  simp only [record, Action.run_bind, Action.run_ofExcept]
  cases encoded : entry.encode with
  | error e => exact .inr ⟨e, store, .tooLarge e encoded, rfl⟩
  | ok bytes =>
    simp only [onFolder, DataFolder.appendJournal, Action.run_bind, Action.run_on, Action.run_look]
    cases rooms : store.folder.rooms with
    | nil => exact .inl ⟨bytes, rfl, by simp [recorded, rooms]⟩
    | cons room rest =>
      by_cases short : room < bytes.length
      · refine .inr ⟨_, _, .noRoom bytes room rest encoded rooms short, ?_⟩
        simp [short, Action.run_bind]
      · exact .inl ⟨bytes, rfl, by simp [short, recorded, rooms]⟩

/-! ## Calls -/

/-- The store with the next number used up. -/
def allocated (store : Durable) : Durable :=
  { store with mailbox := { store.mailbox with nextId := store.mailbox.nextId + 1 } }

/-- What a call that is made at a moment answers and leaves. -/
inductive Effect (now : Timestamp) (store : Durable) :
    StoreCall → StoreAnswer → Durable → Prop where
  | asked (question : Question) :
    Effect now store (.ask question) (.ok (question.lookUp store.directory store.mailbox)) store
  | refused (id : ClientId) (name : String) (key : Bytes) (e : StoreError)
    (h : store.directory.insert? id name key now = .error e) :
    Effect now store (.insertClient id name key) (.error e) store
  | occupied (id : ClientId) (name : String) (key : Bytes)
    (h : store.directory.insert? id name key now = .ok none) :
    Effect now store (.insertClient id name key) (.ok (.truth false)) store
  | unregistered (id : ClientId) (name : String) (key : Bytes)
    (fault : store.folder.snapshotFaults.head? = some true) :
    Effect now store (.insertClient id name key) (.error .fileAccess) store.spent
  | registered (id : ClientId) (name : String) (key : Bytes) (directory : Directory)
    (h : store.directory.insert? id name key now = .ok (some directory)) :
    Effect now store (.insertClient id name key) (.ok (.truth true)) (store.committed directory)
  | unknown (id : ClientId) (h : store.directory.see? id now = none) :
    Effect now store (.updateLastSeen id) (.ok (.truth false)) store
  | unseen (id : ClientId) (fault : store.folder.snapshotFaults.head? = some true) :
    Effect now store (.updateLastSeen id) (.error .fileAccess) store.spent
  | seen (id : ClientId) (before : Timestamp) (directory : Directory)
    (h : store.directory.see? id now = some (before, directory)) :
    Effect now store (.updateLastSeen id) (.ok (.truth true)) (store.committed directory)
  | exhausted (target sender : ClientId) (type : MessageType) (content : Bytes)
    (h : store.mailbox.nextId = Mailbox.lastId) :
    Effect now store (.insertMessage target sender type content) (.error .idsExhausted) store
  | wasted (target sender : ClientId) (type : MessageType) (content : Bytes) (e : StoreError)
    (store' : Durable) (room : store.mailbox.nextId ≠ Mailbox.lastId)
    (fault : RecordFault (.inserted ⟨store.mailbox.nextId, target, sender, type, content⟩)
      store.allocated e store') :
    Effect now store (.insertMessage target sender type content) (.error e) store'
  | taken (target sender : ClientId) (type : MessageType) (content : Bytes) (bytes : Bytes)
    (room : store.mailbox.nextId ≠ Mailbox.lastId)
    (encoded : (JournalEntry.inserted
      ⟨store.mailbox.nextId, target, sender, type, content⟩).encode = .ok bytes) :
    Effect now store (.insertMessage target sender type content)
      (.ok (.number store.mailbox.nextId))
      (store.recorded bytes
        (store.allocated.mailbox.restore ⟨store.mailbox.nextId, target, sender, type, content⟩))
  | absent (id : UInt32) (h : store.mailbox.contains id = false) :
    Effect now store (.deleteMessage id) (.ok (.truth false)) store
  | unremoved (id : UInt32) (e : StoreError) (store' : Durable)
    (fault : RecordFault (.deleted id) store e store') :
    Effect now store (.deleteMessage id) (.error e) store'
  | removed (id : UInt32) (bytes : Bytes) (h : store.mailbox.contains id = true)
    (encoded : (JournalEntry.deleted id).encode = .ok bytes) :
    Effect now store (.deleteMessage id) (.ok (.truth true))
      (store.recorded bytes (store.mailbox.forget id))

/-- Taking in a client has one of the effects of its call. -/
theorem effect_insertClient (now : Timestamp) (id : ClientId) (name : String) (key : Bytes)
    (store : Durable) :
    Effect now store (.insertClient id name key)
      (((insertClient id name key now).run store).result.map .truth)
      ((insertClient id name key now).run store).state := by
  simp only [insertClient, Action.run_bind, Action.run_look, Action.run_ofExcept]
  cases inserted : store.directory.insert? id name key now with
  | error e => exact .refused id name key e inserted
  | ok directory? =>
    cases directory? with
    | none => exact .occupied id name key inserted
    | some directory =>
      simp only [Action.run_bind, Action.run_tell, Action.run_attempt]
      by_cases fault : store.folder.snapshotFaults.head? = some true
      · rw [run_commit_of_fault directory fault]
        exact .unregistered id name key fault
      · rw [run_commit directory fault]
        exact .registered id name key directory inserted

/-- Noting that a client was seen has one of the effects of its call. -/
theorem effect_updateLastSeen (now : Timestamp) (id : ClientId) (store : Durable) :
    Effect now store (.updateLastSeen id)
      (((updateLastSeen id now).run store).result.map .truth)
      ((updateLastSeen id now).run store).state := by
  simp only [updateLastSeen, Action.run_bind, Action.run_look]
  cases found : store.directory.see? id now with
  | none => exact .unknown id found
  | some seen =>
    obtain ⟨before, directory⟩ := seen
    simp only [Action.run_bind]
    by_cases fault : store.folder.snapshotFaults.head? = some true
    · rw [run_commit_of_fault directory fault]
      exact .unseen id fault
    · rw [run_commit directory fault]
      exact .seen id before directory found

/-- Taking in a message has one of the effects of its call. -/
theorem effect_insertMessage (now : Timestamp) (target sender : ClientId) (type : MessageType)
    (content : Bytes) (store : Durable) :
    Effect now store (.insertMessage target sender type content)
      (((insertMessage target sender type content).run store).result.map .number)
      ((insertMessage target sender type content).run store).state := by
  simp only [insertMessage, Action.run_bind, Action.run_look, Action.run_ofExcept]
  by_cases room : store.mailbox.nextId = Mailbox.lastId
  · have none : store.mailbox.allocate = .error .idsExhausted := if_pos room
    rw [none]
    exact .exhausted target sender type content room
  · have next : store.mailbox.allocate = .ok (store.mailbox.nextId, store.allocated.mailbox) :=
      if_neg room
    simp only [next, Action.run_replace]
    obtain ⟨bytes, encoded, run⟩ | ⟨e, store', fault, run⟩ :=
      record_outcome (.inserted ⟨store.mailbox.nextId, target, sender, type, content⟩)
        (store.allocated.mailbox.restore ⟨store.mailbox.nextId, target, sender, type, content⟩)
        store.allocated
    · simp only [allocated] at run ⊢
      rw [run]
      exact .taken target sender type content bytes room encoded
    · simp only [allocated] at run ⊢
      rw [run]
      exact .wasted target sender type content e store' room fault

/-- Removing a message has one of the effects of its call. -/
theorem effect_deleteMessage (now : Timestamp) (id : UInt32) (store : Durable) :
    Effect now store (.deleteMessage id) (((deleteMessage id).run store).result.map .truth)
      ((deleteMessage id).run store).state := by
  simp only [deleteMessage, Action.run_bind, Action.run_look]
  cases present : store.mailbox.contains id with
  | false => exact .absent id present
  | true =>
    simp only [if_true, Action.run_bind]
    obtain ⟨bytes, encoded, run⟩ | ⟨e, store', fault, run⟩ :=
      record_outcome (.deleted id) (store.mailbox.forget id) store
    · rw [run]
      exact .removed id bytes present encoded
    · rw [run]
      exact .unremoved id e store' fault

/-- A question is answered from memory, and changes nothing. -/
theorem run_question (question : Question) (store : Durable) :
    question.perform.run store
      = ⟨.ok (question.lookUp store.directory store.mailbox), store, []⟩ := by
  cases question <;> rfl

/-- Every call has one of the effects. -/
theorem effect_perform (now : Timestamp) (call : StoreCall) (store : Durable) :
    Effect now store call ((call.perform now).run store).result
      ((call.perform now).run store).state := by
  cases call with
  | ask question =>
    rw [StoreCall.perform, run_question]
    exact .asked question
  | insertClient id name key =>
    rw [StoreCall.perform, Action.run_bind_pure]
    exact effect_insertClient now id name key store
  | updateLastSeen id =>
    rw [StoreCall.perform, Action.run_bind_pure]
    exact effect_updateLastSeen now id store
  | insertMessage target sender type content =>
    rw [StoreCall.perform, Action.run_bind_pure]
    exact effect_insertMessage now target sender type content store
  | deleteMessage id =>
    rw [StoreCall.perform, Action.run_bind_pure]
    exact effect_deleteMessage now id store

end Durable

end MessageRelay.Store
