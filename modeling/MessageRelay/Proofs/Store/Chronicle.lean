import MessageRelay.Proofs.Store.CallEffect
import MessageRelay.Proofs.Store.MailboxOrder
import MessageRelay.Store.Backend

/-!
# Keeping record of a mailbox

Every kind of store has a mailbox, and only taking in and removing messages change it, in the ways
that `TakeOutcome` and `RemovalOutcome` list. A chronicle is a store that also writes down which
messages were taken in and which removals failed; apart from that it answers as its store does.
-/

set_option autoImplicit false

namespace MessageRelay.Store

open Protocol (ClientId MessageType)

/-! ## Stores with a mailbox -/

/-- How taking in a message may end: with the next number, or with a fault before or after that
number was used up. -/
inductive TakeOutcome (target sender : ClientId) (type : MessageType) (content : Bytes)
    (mailbox : Mailbox) : Except StoreError UInt32 → Mailbox → Prop where
  | taken (room : mailbox.nextId ≠ Mailbox.lastId) :
    TakeOutcome target sender type content mailbox (.ok mailbox.nextId)
      ({ mailbox with nextId := mailbox.nextId + 1 }.restore
        { id := mailbox.nextId, target, sender, type, content })
  | refused (e : StoreError) : TakeOutcome target sender type content mailbox (.error e) mailbox
  | wasted (e : StoreError) (room : mailbox.nextId ≠ Mailbox.lastId) :
    TakeOutcome target sender type content mailbox (.error e)
      { mailbox with nextId := mailbox.nextId + 1 }

/-- How removing a message may end. -/
inductive RemovalOutcome (id : UInt32) (mailbox : Mailbox) :
    Except StoreError Bool → Mailbox → Prop where
  | done : RemovalOutcome id mailbox (.ok (mailbox.contains id)) (mailbox.forget id)
  | failed (e : StoreError) : RemovalOutcome id mailbox (.error e) mailbox

/-- A type of stores with a mailbox, on which the operations do what they are for. -/
class MailboxStore (σ : Type) [RelayStore σ] where
  mailbox : σ → Mailbox
  mailbox_hasId : ∀ id (s : σ), mailbox ((RelayStore.hasId id).run s).state = mailbox s
  mailbox_hasName : ∀ name (s : σ), mailbox ((RelayStore.hasName name).run s).state = mailbox s
  mailbox_insertClient : ∀ id name key now (s : σ),
    mailbox ((RelayStore.insertClient id name key now).run s).state = mailbox s
  mailbox_clients : ∀ s : σ, mailbox (RelayStore.clients.run s).state = mailbox s
  mailbox_publicKey : ∀ name (s : σ), mailbox ((RelayStore.publicKey name).run s).state = mailbox s
  mailbox_idByName : ∀ name (s : σ), mailbox ((RelayStore.idByName name).run s).state = mailbox s
  mailbox_updateLastSeen : ∀ id now (s : σ),
    mailbox ((RelayStore.updateLastSeen id now).run s).state = mailbox s
  insertMessage_outcome : ∀ target sender type content (s : σ),
    TakeOutcome target sender type content (mailbox s)
      ((RelayStore.insertMessage target sender type content).run s).result
      (mailbox ((RelayStore.insertMessage target sender type content).run s).state)
  unread_result : ∀ target (s : σ),
    ((RelayStore.unread target).run s).result = .ok ((mailbox s).unread target)
  mailbox_unread : ∀ target (s : σ), mailbox ((RelayStore.unread target).run s).state = mailbox s
  deleteMessage_outcome : ∀ id (s : σ),
    RemovalOutcome id (mailbox s) ((RelayStore.deleteMessage id).run s).result
      (mailbox ((RelayStore.deleteMessage id).run s).state)

namespace Volatile

/-- Taking in a client leaves the mailbox in memory as it is. -/
theorem mailbox_insertClient (id : ClientId) (name : String) (key : Bytes) (now : Timestamp)
    (store : Volatile) :
    ((insertClient id name key now).run store).state.mailbox = store.mailbox := by
  simp only [insertClient, Action.run_bind, Action.run_look, Action.run_ofExcept]
  cases store.directory.insert? id name key now with
  | error e => rfl
  | ok directory? => cases directory? <;> rfl

/-- Noting that a client was seen leaves the mailbox in memory as it is. -/
theorem mailbox_updateLastSeen (id : ClientId) (now : Timestamp) (store : Volatile) :
    ((updateLastSeen id now).run store).state.mailbox = store.mailbox := by
  simp only [updateLastSeen, Action.run_bind, Action.run_look]
  cases store.directory.see? id now <;> rfl

/-- Taking in a message in memory ends in one of these ways. -/
theorem insertMessage_outcome (target sender : ClientId) (type : MessageType) (content : Bytes)
    (store : Volatile) :
    TakeOutcome target sender type content store.mailbox
      ((insertMessage target sender type content).run store).result
      ((insertMessage target sender type content).run store).state.mailbox := by
  simp only [insertMessage, Action.run_bind, Action.run_look, Action.run_ofExcept]
  cases h : store.mailbox.allocate with
  | error e => exact .refused e
  | ok allocated =>
    obtain ⟨id, mailbox⟩ := allocated
    obtain ⟨room, rfl, rfl⟩ := (Mailbox.allocate_eq_ok_iff _ _ _).1 h
    exact .taken room

instance : MailboxStore Volatile where
  mailbox := Volatile.mailbox
  mailbox_hasId _ _ := rfl
  mailbox_hasName _ _ := rfl
  mailbox_insertClient := mailbox_insertClient
  mailbox_clients _ := rfl
  mailbox_publicKey _ _ := rfl
  mailbox_idByName _ _ := rfl
  mailbox_updateLastSeen := mailbox_updateLastSeen
  insertMessage_outcome := insertMessage_outcome
  unread_result _ _ := rfl
  mailbox_unread _ _ := rfl
  deleteMessage_outcome _ _ := .done

end Volatile

namespace Journal

/-- The log of a mailbox without messages: its next number. -/
def blank : Bytes :=
  Bytes.ofUInt32 4 ++ 3 :: Bytes.ofUInt32 (JournalEntry.checksum 3 (Bytes.ofUInt32 1))
    ++ Bytes.ofUInt32 1

/-- The log of an empty mailbox is blank. -/
theorem encode_compaction_empty : encode (compaction .empty) = .ok blank := by
  simp only [encode, compaction, Mailbox.pending, Mailbox.empty, List.mergeSort_nil, List.map_nil,
    List.mapM_cons, List.mapM_nil, JournalEntry.encode, JournalEntry.record, JournalEntry.body,
    JournalEntry.kind, Bytes.length_ofUInt32]
  rfl

end Journal

namespace Durable

/-- Taking in a client leaves the mailbox of files as it is. -/
theorem mailbox_insertClient (id : ClientId) (name : String) (key : Bytes) (now : Timestamp)
    (store : Durable) :
    ((insertClient id name key now).run store).state.mailbox = store.mailbox := by
  have effect := effect_insertClient now id name key store
  generalize ((insertClient id name key now).run store).state = store' at effect ⊢
  generalize Except.map _ _ = answer at effect
  cases effect <;> rfl

/-- Noting that a client was seen leaves the mailbox of files as it is. -/
theorem mailbox_updateLastSeen (id : ClientId) (now : Timestamp) (store : Durable) :
    ((updateLastSeen id now).run store).state.mailbox = store.mailbox := by
  have effect := effect_updateLastSeen now id store
  generalize ((updateLastSeen id now).run store).state = store' at effect ⊢
  generalize Except.map _ _ = answer at effect
  cases effect <;> rfl

/-- A record that cannot be written leaves the mailbox as it is. -/
theorem RecordFault.mailbox_eq {entry : JournalEntry} {store store' : Durable} {e : StoreError}
    (fault : RecordFault entry store e store') : store'.mailbox = store.mailbox := by
  cases fault <;> rfl

/-- Taking in a message in files ends in one of these ways. -/
theorem insertMessage_outcome (target sender : ClientId) (type : MessageType) (content : Bytes)
    (store : Durable) :
    TakeOutcome target sender type content store.mailbox
      ((insertMessage target sender type content).run store).result
      ((insertMessage target sender type content).run store).state.mailbox := by
  simp only [insertMessage, Action.run_bind, Action.run_look, Action.run_ofExcept]
  cases h : store.mailbox.allocate with
  | error e => exact .refused e
  | ok allocated =>
    obtain ⟨id, mailbox⟩ := allocated
    obtain ⟨room, rfl, rfl⟩ := (Mailbox.allocate_eq_ok_iff _ _ _).1 h
    simp only [Action.run_replace]
    generalize hm : StoredMessage.mk store.mailbox.nextId target sender type content = message
    obtain ⟨bytes, encoded, run⟩ | ⟨e, store', fault, run⟩ := record_outcome (.inserted message)
      (store.allocated.mailbox.restore message) store.allocated
    · simp only [Durable.allocated] at run
      rw [run, ← hm]
      exact .taken room
    · simp only [Durable.allocated] at run
      rw [run]
      show TakeOutcome target sender type content store.mailbox (.error e) store'.mailbox
      rw [fault.mailbox_eq]
      exact .wasted e room

/-- Removing a message from files ends in one of these ways. -/
theorem deleteMessage_outcome (id : UInt32) (store : Durable) :
    RemovalOutcome id store.mailbox ((deleteMessage id).run store).result
      ((deleteMessage id).run store).state.mailbox := by
  simp only [deleteMessage, Action.run_bind, Action.run_look]
  cases h : store.mailbox.contains id with
  | false =>
    have absent : RemovalOutcome id store.mailbox _ _ := .done
    rw [h, Mailbox.forget_of_not_contains h] at absent
    exact absent
  | true =>
    simp only [if_true, Action.run_bind]
    obtain ⟨bytes, encoded, run⟩ | ⟨e, store', fault, run⟩ :=
      record_outcome (.deleted id) (store.mailbox.forget id) store
    · rw [run, ← h]
      exact .done
    · rw [run]
      show RemovalOutcome id store.mailbox (.error e) store'.mailbox
      rw [fault.mailbox_eq]
      exact .failed e

/-- A folder without files is opened as a store without clients and messages. -/
theorem result_openFolder_of_noFiles {folder : DataFolder} (noSnapshot : folder.snapshot? = none)
    (noJournal : folder.journal? = none) :
    (openFolder.run folder).result = .ok {
      folder := { folder with journal? := some Journal.blank }
      directory := .empty
      mailbox := .empty } := by
  simp [openFolder, loadDirectory, loadMailbox, DataFolder.replaceJournal, Action.run_bind,
    noSnapshot, noJournal, Journal.encode_compaction_empty]

instance : MailboxStore Durable where
  mailbox := Durable.mailbox
  mailbox_hasId _ _ := rfl
  mailbox_hasName _ _ := rfl
  mailbox_insertClient := mailbox_insertClient
  mailbox_clients _ := rfl
  mailbox_publicKey _ _ := rfl
  mailbox_idByName _ _ := rfl
  mailbox_updateLastSeen := mailbox_updateLastSeen
  insertMessage_outcome := insertMessage_outcome
  unread_result _ _ := rfl
  mailbox_unread _ _ := rfl
  deleteMessage_outcome := deleteMessage_outcome

end Durable

namespace Backend

/-- The mailbox of a store. -/
def mailbox : Backend → Mailbox
  | .memory store => store.mailbox
  | .files store => store.mailbox

instance : MailboxStore Backend where
  mailbox := mailbox
  mailbox_hasId _ backend := by cases backend <;> rfl
  mailbox_hasName _ backend := by cases backend <;> rfl
  mailbox_insertClient id name key now backend := by
    cases backend with
    | memory store => exact Volatile.mailbox_insertClient id name key now store
    | files store => exact Durable.mailbox_insertClient id name key now store
  mailbox_clients backend := by cases backend <;> rfl
  mailbox_publicKey _ backend := by cases backend <;> rfl
  mailbox_idByName _ backend := by cases backend <;> rfl
  mailbox_updateLastSeen id now backend := by
    cases backend with
    | memory store => exact Volatile.mailbox_updateLastSeen id now store
    | files store => exact Durable.mailbox_updateLastSeen id now store
  insertMessage_outcome target sender type content backend := by
    cases backend with
    | memory store => exact Volatile.insertMessage_outcome target sender type content store
    | files store => exact Durable.insertMessage_outcome target sender type content store
  unread_result _ backend := by cases backend <;> rfl
  mailbox_unread _ backend := by cases backend <;> rfl
  deleteMessage_outcome id backend := by
    cases backend with
    | memory store => exact RemovalOutcome.done
    | files store => exact Durable.deleteMessage_outcome id store

/-- A store that was never used: one in memory, or one opened in a folder without files. -/
inductive Fresh : Backend → Prop where
  | memory : Fresh (.memory .empty)
  | files (folder : DataFolder) (store : Durable) (noSnapshot : folder.snapshot? = none)
    (noJournal : folder.journal? = none)
    (opened : (Durable.openFolder.run folder).result = .ok store) : Fresh (.files store)

/-- A fresh store has an empty mailbox. -/
theorem Fresh.mailbox_eq {backend : Backend} (fresh : backend.Fresh) :
    backend.mailbox = .empty := by
  cases fresh with
  | memory => rfl
  | files folder store noSnapshot noJournal opened =>
    rw [Durable.result_openFolder_of_noFiles noSnapshot noJournal] at opened
    cases opened
    rfl

end Backend

/-! ## The chronicle -/

/-- A store with the record of what became of its messages. -/
structure Chronicle (σ : Type) where
  store : σ
  /-- The messages that were taken in, oldest first. -/
  accepted : List StoredMessage
  /-- The numbers of the messages whose removal failed. -/
  unremoved : List UInt32

namespace Chronicle

variable {σ α : Type}

/-- A chronicle that begins with a store. -/
def begin (store : σ) : Chronicle σ :=
  ⟨store, [], []⟩

/-- An operation of the store of which no record is kept. -/
def passing (action : Action σ StoreError α) : Action (Chronicle σ) StoreError α :=
  action.on Chronicle.store fun store chronicle => { chronicle with store }

/-- An operation of the store whose result is put on record. -/
def noting (note : Except StoreError α → Chronicle σ → Chronicle σ)
    (action : Action σ StoreError α) : Action (Chronicle σ) StoreError α := do
  let result ← (passing action).attempt
  Action.change (note result)
  Action.ofExcept result

/-- Puts a message on record that was taken in. -/
def noteTaken (target sender : ClientId) (type : MessageType) (content : Bytes) :
    Except StoreError UInt32 → Chronicle σ → Chronicle σ
  | .ok id, chronicle =>
    { chronicle with
      accepted := chronicle.accepted ++ [{ id, target, sender, type, content }] }
  | .error _, chronicle => chronicle

/-- Puts a removal on record that failed. -/
def noteRemoval (id : UInt32) : Except StoreError Bool → Chronicle σ → Chronicle σ
  | .ok _, chronicle => chronicle
  | .error _, chronicle => { chronicle with unremoved := chronicle.unremoved ++ [id] }

instance [RelayStore σ] : RelayStore (Chronicle σ) where
  hasId id := passing (RelayStore.hasId id)
  hasName name := passing (RelayStore.hasName name)
  insertClient id name key now := passing (RelayStore.insertClient id name key now)
  clients := passing RelayStore.clients
  publicKey name := passing (RelayStore.publicKey name)
  idByName name := passing (RelayStore.idByName name)
  updateLastSeen id now := passing (RelayStore.updateLastSeen id now)
  insertMessage target sender type content :=
    noting (noteTaken target sender type content)
      (RelayStore.insertMessage target sender type content)
  unread target := passing (RelayStore.unread target)
  deleteMessage id := noting (noteRemoval id) (RelayStore.deleteMessage id)

/-- What is noted of an operation changes neither its result nor what it tells. -/
theorem run_noting (note : Except StoreError α → Chronicle σ → Chronicle σ)
    (action : Action σ StoreError α) (chronicle : Chronicle σ) :
    (noting note action).run chronicle
      = ⟨(action.run chronicle.store).result,
          note (action.run chronicle.store).result
            { chronicle with store := (action.run chronicle.store).state },
          (action.run chronicle.store).notices⟩ := by
  simp [noting, passing, Action.run_bind]

/-- Putting a message on record does not touch the store. -/
@[simp] theorem store_noteTaken (target sender : ClientId) (type : MessageType) (content : Bytes)
    (result : Except StoreError UInt32) (chronicle : Chronicle σ) :
    (noteTaken target sender type content result chronicle).store = chronicle.store := by
  cases result <;> rfl

/-- Putting a removal on record does not touch the store. -/
@[simp] theorem store_noteRemoval (id : UInt32) (result : Except StoreError Bool)
    (chronicle : Chronicle σ) : (noteRemoval id result chronicle).store = chronicle.store := by
  cases result <;> rfl

/-- Keeping record changes neither results nor notices nor the store. -/
theorem alike_noting (note : Except StoreError α → Chronicle σ → Chronicle σ)
    (hn : ∀ result chronicle, (note result chronicle).store = chronicle.store)
    (action : Action σ StoreError α) :
    Action.Alike (fun chronicle store => chronicle.store = store) (noting note action) action := by
  rintro chronicle _ rfl
  rw [run_noting]
  exact ⟨rfl, rfl, hn _ _⟩

/-- An operation of which no record is kept runs as it does without a chronicle. -/
theorem alike_passing (action : Action σ StoreError α) :
    Action.Alike (fun chronicle store => chronicle.store = store) (passing action) action := by
  rintro chronicle _ rfl
  exact ⟨rfl, rfl, rfl⟩

/-! ## What operations put on record -/

variable [RelayStore σ] [MailboxStore σ]

/-- All that a chronicle says about messages. -/
structure Account where
  mailbox : Mailbox
  accepted : List StoredMessage
  unremoved : List UInt32

/-- The account of a chronicle. -/
def account (chronicle : Chronicle σ) : Account where
  mailbox := MailboxStore.mailbox chronicle.store
  accepted := chronicle.accepted
  unremoved := chronicle.unremoved

/-- An operation that leaves the mailbox as it is, and of which no record is kept, changes nothing
of the account. -/
theorem account_passing {action : Action σ StoreError α}
    (h : ∀ s, MailboxStore.mailbox (action.run s).state = MailboxStore.mailbox s)
    (chronicle : Chronicle σ) :
    ((passing action).run chronicle).state.account = chronicle.account := by
  show Account.mk _ _ _ = Account.mk _ _ _
  rw [← h chronicle.store]
  rfl

/-- How an account has grown while a client was served: messages from that client were taken in, and
no removal failed. -/
def Account.Grows (caller? : Option ClientId) (account account' : Account) : Prop :=
  account'.unremoved = account.unremoved ∧
    ∃ new, account'.accepted = account.accepted ++ new ∧
      (∀ message ∈ new, caller? = some message.sender) ∧
      Mailbox.Grows new account.mailbox account'.mailbox

/-- An account that stays as it is has only grown. -/
theorem Account.Grows.refl (caller? : Option ClientId) (account : Account) :
    account.Grows caller? account :=
  ⟨rfl, [], (List.append_nil _).symm, by simp, .refl _⟩

/-- An account that grows twice has only grown. -/
theorem Account.Grows.trans {caller? : Option ClientId} {a b c : Account}
    (h : a.Grows caller? b) (h' : b.Grows caller? c) : a.Grows caller? c := by
  obtain ⟨unremoved, new, accepted, signed, grows⟩ := h
  obtain ⟨unremoved', new', accepted', signed', grows'⟩ := h'
  refine ⟨unremoved'.trans unremoved, new ++ new', ?_, ?_, grows.trans grows'⟩
  · rw [accepted', accepted, List.append_assoc]
  · intro message hm
    obtain hm | hm := List.mem_append.1 hm
    · exact signed message hm
    · exact signed' message hm

/-- Taking in a message lets the account grow by at most this message. -/
theorem grows_insertMessage (target sender : ClientId) (type : MessageType) (content : Bytes)
    (chronicle : Chronicle σ) :
    chronicle.account.Grows (some sender)
      ((RelayStore.insertMessage target sender type content).run chronicle).state.account := by
  have outcome := MailboxStore.insertMessage_outcome target sender type content chronicle.store
  show Account.Grows _ _ (account (Action.run (noting _ _) chronicle).state)
  rw [run_noting]
  generalize Action.run _ chronicle.store = out at outcome ⊢
  obtain ⟨result, store, notices⟩ := out
  simp only [account] at outcome ⊢
  revert outcome
  generalize MailboxStore.mailbox chronicle.store = before
  generalize hs : MailboxStore.mailbox store = after
  intro outcome
  cases outcome with
  | taken room =>
    refine ⟨rfl, [_], rfl, ?_, ?_⟩
    · simp
    · show Mailbox.Grows _ _ (MailboxStore.mailbox store)
      rw [hs]
      exact Mailbox.grows_take room rfl
  | refused e =>
    refine ⟨rfl, [], (List.append_nil _).symm, by simp, ?_⟩
    show Mailbox.Grows _ _ (MailboxStore.mailbox store)
    rw [hs]
    exact .refl _
  | wasted e room =>
    refine ⟨rfl, [], (List.append_nil _).symm, by simp, ?_⟩
    show Mailbox.Grows _ _ (MailboxStore.mailbox store)
    rw [hs]
    exact Mailbox.grows_waste room

/-- A removal changes the mailbox and the failed removals of the account, and nothing else. -/
theorem account_deleteMessage (id : UInt32) (chronicle : Chronicle σ) :
    ((RelayStore.deleteMessage id).run chronicle).state.account
        = { chronicle.account with mailbox := chronicle.account.mailbox.forget id } ∨
      ((RelayStore.deleteMessage id).run chronicle).state.account
        = { chronicle.account with unremoved := chronicle.account.unremoved ++ [id] } := by
  have outcome := MailboxStore.deleteMessage_outcome id chronicle.store
  show account (Action.run (noting _ _) chronicle).state = _
    ∨ account (Action.run (noting _ _) chronicle).state = _
  rw [run_noting]
  generalize Action.run _ chronicle.store = out at outcome ⊢
  obtain ⟨result, store, notices⟩ := out
  simp only [account, store_noteRemoval] at outcome ⊢
  revert outcome
  generalize MailboxStore.mailbox chronicle.store = before
  generalize MailboxStore.mailbox store = after
  intro outcome
  cases outcome with
  | done => exact .inl rfl
  | failed e => exact .inr rfl

end Chronicle

end MessageRelay.Store
