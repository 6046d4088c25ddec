import MessageRelay.Proofs.Store.Chronicle
import MessageRelay.Proofs.Store.PlainCalls

/-!
# Stores of either kind

What the operations do to a store, whether it is in memory or in files. Questions leave it as it is.
A call that fails leaves its data as they were, in memory and in the files, but for a number that it
may use up (`Spared`). Taking in a client and noting that a client was seen do what they are for or
fail (`Enrolment`, `Sighting`). Whatever was called before, the files hold what is in memory
(`Reached.sound`), so a store that is closed and opened again has its contents still.
-/

set_option autoImplicit false

namespace MessageRelay.Store

open Protocol (ClientId MessageType)

namespace Durable

/-- A record that cannot be written leaves the directory as it is. -/
theorem RecordFault.directory_eq {entry : JournalEntry} {store store' : Durable} {e : StoreError}
    (fault : RecordFault entry store e store') : store'.directory = store.directory := by
  cases fault <;> rfl

/-- Taking in a message leaves the directory of files as it is. -/
theorem directory_insertMessage (now : Timestamp) (target sender : ClientId) (type : MessageType)
    (content : Bytes) (store : Durable) :
    ((insertMessage target sender type content).run store).state.directory = store.directory := by
  have effect := effect_insertMessage now target sender type content store
  generalize ((insertMessage target sender type content).run store).state = store' at effect ⊢
  generalize Except.map _ _ = answer at effect
  cases effect with
  | exhausted | taken => rfl
  | wasted _ _ _ _ _ _ _ fault => exact fault.directory_eq

/-- Removing a message leaves the directory of files as it is. -/
theorem directory_deleteMessage (now : Timestamp) (id : UInt32) (store : Durable) :
    ((deleteMessage id).run store).state.directory = store.directory := by
  have effect := effect_deleteMessage now id store
  generalize ((deleteMessage id).run store).state = store' at effect ⊢
  generalize Except.map _ _ = answer at effect
  cases effect with
  | absent | removed => rfl
  | unremoved _ _ _ fault => exact fault.directory_eq

end Durable

namespace Backend

variable {store store' store'' : Backend} {next : UInt32}

/-- The clients and the messages of a store. -/
def contents (store : Backend) : Contents :=
  .of store.directory store.mailbox

/-- What holds in every store that was filled by calls; `next` is the number that comes next in its
files, if it has files. -/
def Sound (next : UInt32) : Backend → Prop
  | .memory store => store.Sound
  | .files store => store.Sound next

/-- The directory of a sound store is consistent. -/
theorem Sound.consistent (sound : store.Sound next) : store.directory.Consistent := by
  cases store with
  | memory store => exact Volatile.Sound.consistent sound
  | files store => exact Durable.Sound.consistent sound

/-- The mailbox of a sound store is well kept. -/
theorem Sound.kept (sound : store.Sound next) : store.mailbox.WellKept := by
  cases store with
  | memory store => exact Volatile.Sound.kept sound
  | files store => exact Durable.Sound.kept sound

/-- Which of the snapshots to come are planned to fail. -/
def snapshotFaults : Backend → List Bool
  | .memory _ => []
  | .files store => store.folder.snapshotFaults

/-- A store of the same kind as another that is sound if that one is, with the same number in its
files. -/
structure Accords (store store' : Backend) : Prop where
  kind : store'.folder?.isSome = store.folder?.isSome
  plan : store'.snapshotFaults <:+ store.snapshotFaults
  sound : ∀ next, store.Sound next → store'.Sound next

/-- A store accords with itself. -/
theorem Accords.refl (store : Backend) : store.Accords store :=
  ⟨rfl, List.suffix_refl _, fun _ sound => sound⟩

/-- What accords with a store that accords with a third one accords with that one. -/
theorem Accords.trans (h : store.Accords store') (h' : store'.Accords store'') :
    store.Accords store'' where
  kind := h'.kind.trans h.kind
  plan := h'.plan.trans h.plan
  sound next sound := h'.sound next (h.sound next sound)

/-! ## Questions -/

/-- Whether an identifier is taken is looked up in the directory. -/
@[simp] theorem run_hasId (id : ClientId) (store : Backend) :
    (RelayStore.hasId id).run store = ⟨.ok (store.directory.hasId id), store, []⟩ := by
  cases store <;> rfl

/-- Whether a name is taken is looked up in the directory. -/
@[simp] theorem run_hasName (name : String) (store : Backend) :
    (RelayStore.hasName name).run store = ⟨.ok (store.directory.hasName name), store, []⟩ := by
  cases store <;> rfl

/-- The clients are given in the order of their names. -/
@[simp] theorem run_clients (store : Backend) :
    RelayStore.clients.run store = ⟨.ok store.directory.sorted, store, []⟩ := by
  cases store <;> rfl

/-- The key under a name is looked up in the directory. -/
@[simp] theorem run_publicKey (name : String) (store : Backend) :
    (RelayStore.publicKey name).run store = ⟨.ok (store.directory.keyOf? name), store, []⟩ := by
  cases store <;> rfl

/-- The identifier under a name is looked up in the directory. -/
@[simp] theorem run_idByName (name : String) (store : Backend) :
    (RelayStore.idByName name).run store = ⟨.ok (store.directory.idOf? name), store, []⟩ := by
  cases store <;> rfl

/-- What waits for a client is looked up in the mailbox. -/
@[simp] theorem run_unread (target : ClientId) (store : Backend) :
    (RelayStore.unread target).run store = ⟨.ok (store.mailbox.unread target), store, []⟩ := by
  cases store <;> rfl

/-! ## Calls that fail -/

/-- What a call that fails leaves of a store. -/
structure Spared (store store' : Backend) : Prop extends store.Accords store' where
  directory : store'.directory = store.directory
  mailbox : store'.mailbox = store.mailbox ∨ store.mailbox.nextId ≠ Mailbox.lastId ∧
    store'.mailbox = { store.mailbox with nextId := store.mailbox.nextId + 1 }

/-- A store that stays as it is is spared. -/
theorem Spared.refl (store : Backend) : store.Spared store :=
  ⟨.refl store, rfl, .inl rfl⟩

/-- A snapshot that cannot be written spares the store. -/
theorem spared_spent (store : Durable) : (files store).Spared (files store.spent) :=
  ⟨⟨rfl, List.tail_suffix _, fun _ sound => (Durable.Sound.spent sound).sound⟩, rfl, .inl rfl⟩

/-- A record of a new message that cannot be written spares the store, but for a number that is
wasted. -/
theorem spared_wasted {store store' : Durable} {entry : JournalEntry} {e : StoreError}
    (room : store.mailbox.nextId ≠ Mailbox.lastId)
    (fault : Durable.RecordFault entry store.allocated e store') :
    (files store).Spared (files store') where
  kind := rfl
  plan := by
    cases fault with
    | tooLarge => exact List.suffix_refl _
    | noRoom => exact List.suffix_refl _
  sound _ sound := ((Durable.Sound.allocated sound room).sound.fault fault).sound
  directory := fault.directory_eq
  mailbox := .inr ⟨room, fault.mailbox_eq⟩

/-- A message that is not taken in leaves the data as they were. -/
theorem spared_insertMessage {target sender : ClientId} {type : MessageType} {content : Bytes}
    {e : StoreError} (now : Timestamp)
    (failed : ((RelayStore.insertMessage target sender type content).run store).result = .error e) :
    store.Spared ((RelayStore.insertMessage target sender type content).run store).state := by
  cases store with
  | memory store =>
    change ((Volatile.insertMessage target sender type content).run store).result = .error e
      at failed
    have same : ((Volatile.insertMessage target sender type content).run store).state = store := by
      simp only [Volatile.insertMessage, Action.run_bind, Action.run_look, Action.run_ofExcept]
        at failed ⊢
      cases given : store.mailbox.allocate with
      | error e => rfl
      | ok allocated =>
        rw [given] at failed
        cases failed
    show (memory store).Spared
      (memory ((Volatile.insertMessage target sender type content).run store).state)
    rw [same]
    exact .refl _
  | files store =>
    change ((Durable.insertMessage target sender type content).run store).result = .error e
      at failed
    have effect := Durable.effect_insertMessage now target sender type content store
    rw [failed] at effect
    show (files store).Spared (files _)
    generalize ((Durable.insertMessage target sender type content).run store).state = left
      at effect ⊢
    cases effect with
    | exhausted => exact .refl _
    | wasted _ _ _ _ _ _ room fault => exact spared_wasted room fault

/-! ## Messages -/

/-- Taking in a message leaves the directory of either kind of store as it is. -/
theorem directory_insertMessage (now : Timestamp) (target sender : ClientId) (type : MessageType)
    (content : Bytes) (store : Backend) :
    ((RelayStore.insertMessage target sender type content).run store).state.directory
      = store.directory := by
  cases store with
  | memory store =>
    show ((Volatile.insertMessage target sender type content).run store).state.directory = _
    simp only [Volatile.insertMessage, Action.run_bind, Action.run_look, Action.run_ofExcept]
    cases store.mailbox.allocate <;> rfl
  | files store => exact Durable.directory_insertMessage now target sender type content store

/-- Removing a message leaves the directory of either kind of store as it is. -/
theorem directory_deleteMessage (now : Timestamp) (id : UInt32) (store : Backend) :
    ((RelayStore.deleteMessage id).run store).state.directory = store.directory := by
  cases store with
  | memory store => rfl
  | files store => exact Durable.directory_deleteMessage now id store

/-! ## Clients -/

/-- How taking in a client may end. -/
inductive Enrolment (id : ClientId) (name : String) (key : Bytes) (now : Timestamp)
    (store : Backend) : Except StoreError Bool → Backend → Prop where
  | refused {e : StoreError} (h : store.directory.insert? id name key now = .error e) :
      Enrolment id name key now store (.error e) store
  | unwritten {e : StoreError} {store' : Backend} (fault : store.snapshotFaults.head? = some true)
      (spared : store.Spared store') : Enrolment id name key now store (.error e) store'
  | occupied (h : store.directory.insert? id name key now = .ok none) :
      Enrolment id name key now store (.ok false) store
  | enrolled {store' : Backend} (accords : store.Accords store')
      (h : store.directory.insert? id name key now = .ok (some store'.directory)) :
      Enrolment id name key now store (.ok true) store'

/-- Taking in a client ends in one of these ways, in either kind of store. -/
theorem enrolment (id : ClientId) (name : String) (key : Bytes) (now : Timestamp)
    (store : Backend) :
    Enrolment id name key now store
      ((RelayStore.insertClient id name key now).run store).result
      ((RelayStore.insertClient id name key now).run store).state := by
  cases store with
  | memory store =>
    show Enrolment id name key now (memory store)
      ((Volatile.insertClient id name key now).run store).result
      (memory ((Volatile.insertClient id name key now).run store).state)
    simp only [Volatile.insertClient, Action.run_bind, Action.run_look, Action.run_ofExcept]
    cases inserted : store.directory.insert? id name key now with
    | error e => exact .refused inserted
    | ok directory? =>
      cases directory? with
      | none => exact .occupied inserted
      | some directory =>
        refine .enrolled ⟨rfl, List.suffix_refl _, fun next sound => ?_⟩ inserted
        obtain ⟨consistent, kept⟩ : store.Sound := sound
        obtain ⟨fresh, rfl⟩ := consistent.insert?_eq_some inserted
        exact ⟨consistent.restore fresh, kept⟩
  | files store =>
    have effect := Durable.effect_insertClient now id name key store
    show Enrolment id name key now (files store)
      ((Durable.insertClient id name key now).run store).result
      (files ((Durable.insertClient id name key now).run store).state)
    generalize ((Durable.insertClient id name key now).run store).result = result at effect ⊢
    generalize ((Durable.insertClient id name key now).run store).state = left at effect ⊢
    cases result with
    | error e =>
      cases effect with
      | refused _ _ _ _ h => exact .refused h
      | unregistered _ _ _ fault => exact .unwritten fault (spared_spent store)
    | ok truth =>
      cases effect with
      | occupied _ _ _ h => exact .occupied h
      | registered _ _ _ directory h =>
        refine .enrolled ⟨rfl, List.tail_suffix _, fun next sound => ?_⟩ h
        obtain ⟨fresh, rfl⟩ := (Durable.Sound.consistent sound).insert?_eq_some h
        exact (Durable.Sound.committed sound
          ((Durable.Sound.consistent sound).restore fresh)).sound

/-- How noting that a client was seen may end. -/
inductive Sighting (id : ClientId) (now : Timestamp) (store : Backend) : Backend → Prop where
  | unknown : Sighting id now store store
  | unwritten {store' : Backend} (fault : store.snapshotFaults.head? = some true)
      (accords : store.Accords store') (directory : store'.directory = store.directory)
      (mailbox : store'.mailbox = store.mailbox) :
      Sighting id now store store'
  | seen {store' : Backend} {before : Timestamp} (accords : store.Accords store')
      (h : store.directory.see? id now = some (before, store'.directory))
      (mailbox : store'.mailbox = store.mailbox) : Sighting id now store store'

/-- Noting that a client was seen ends in one of these ways, in either kind of store. -/
theorem sighting (id : ClientId) (now : Timestamp) (store : Backend) :
    Sighting id now store ((RelayStore.updateLastSeen id now).run store).state := by
  cases store with
  | memory store =>
    show Sighting id now (memory store)
      (memory ((Volatile.updateLastSeen id now).run store).state)
    simp only [Volatile.updateLastSeen, Action.run_bind, Action.run_look]
    cases found : store.directory.see? id now with
    | none => exact .unknown
    | some seen =>
      obtain ⟨before, directory⟩ := seen
      refine .seen ⟨rfl, List.suffix_refl _, fun next sound => ?_⟩ found rfl
      obtain ⟨consistent, kept⟩ : store.Sound := sound
      exact ⟨(consistent.see found).2.2, kept⟩
  | files store =>
    have effect := Durable.effect_updateLastSeen now id store
    show Sighting id now (files store)
      (files ((Durable.updateLastSeen id now).run store).state)
    generalize ((Durable.updateLastSeen id now).run store).state = left at effect ⊢
    generalize Except.map _ _ = answer at effect
    cases effect with
    | unknown => exact .unknown
    | unseen _ fault => exact .unwritten fault (spared_spent store).toAccords rfl rfl
    | seen _ before directory h =>
      refine .seen ⟨rfl, List.tail_suffix _, fun next sound => ?_⟩ h rfl
      exact (Durable.Sound.committed sound ((Durable.Sound.consistent sound).see h).2.2).sound

/-- Noting that a client was seen uses up faults from the front of the plan only. -/
theorem Sighting.plan {id : ClientId} {now : Timestamp} (sighting : Sighting id now store store') :
    store'.snapshotFaults <:+ store.snapshotFaults := by
  cases sighting with
  | unknown => exact List.suffix_refl _
  | unwritten fault accords => exact accords.plan
  | seen accords => exact accords.plan

/-- Noting that a client was seen leaves the mailbox as it is. -/
theorem Sighting.mailbox_eq {id : ClientId} {now : Timestamp}
    (sighting : Sighting id now store store') : store'.mailbox = store.mailbox := by
  cases sighting with
  | unknown => rfl
  | unwritten _ _ _ mailbox => exact mailbox
  | seen _ _ mailbox => exact mailbox

/-! ## All calls -/

/-- A call to a store of either kind in memory is the call to the store in memory. -/
theorem run_perform_memory (call : StoreCall) (now : Timestamp) (store : Volatile) :
    (call.perform now).run (memory store)
      = ⟨((call.perform now).run store).result, memory ((call.perform now).run store).state,
          ((call.perform now).run store).notices⟩ := by
  cases call with
  | ask question => cases question <;> rfl
  | _ => simp only [StoreCall.perform, Action.run_bind_pure]; rfl

/-- A call to a store of either kind in files is the call to the store in files. -/
theorem run_perform_files (call : StoreCall) (now : Timestamp) (store : Durable) :
    (call.perform now).run (files store)
      = ⟨((call.perform now).run store).result, files ((call.perform now).run store).state,
          ((call.perform now).run store).notices⟩ := by
  cases call with
  | ask question => cases question <;> rfl
  | _ => simp only [StoreCall.perform, Action.run_bind_pure]; rfl

/-- The number that comes next in what lasts of a store: in its files, if it has files. -/
def floor (next : UInt32) : Backend → UInt32
  | .memory store => store.mailbox.nextId
  | .files _ => next

/-- What a call leaves of a sound store goes by its answer. A number that it gives was not below the
next one. -/
theorem Sound.advance (sound : store.Sound next) (call : StoreCall) (now : Timestamp) :
    ∃ next', ((call.perform now).run store).state.Sound next' ∧
      ((call.perform now).run store).state.contents
        = store.contents.after now call ((call.perform now).run store).result ∧
      store.floor next ≤ ((call.perform now).run store).state.floor next' ∧
      ∀ id ∈ numbersOf ((call.perform now).run store).result,
        store.floor next ≤ id ∧ id < ((call.perform now).run store).state.floor next' := by
  cases store with
  | memory store =>
    rw [run_perform_memory]
    have advance := Volatile.Sound.perform sound now call
    obtain ⟨grown, numbers⟩ :=
      Contents.numbers_answer store.contents store.mailbox.nextId call
    rw [← advance.follows.answered, ← advance.follows.numbered] at grown numbers
    exact ⟨next, advance.sound, advance.follows.left, grown, numbers⟩
  | files store =>
    rw [run_perform_files]
    obtain ⟨advance, numbers⟩ :=
      Durable.Sound.effect sound (Durable.effect_perform now call store)
    exact ⟨_, advance.sound, advance.contents, advance.next, numbers⟩

/-- Every call leaves a sound store. -/
theorem Sound.perform (sound : store.Sound next) (call : StoreCall) (now : Timestamp) :
    ∃ next', ((call.perform now).run store).state.Sound next' := by
  obtain ⟨next', sound', -⟩ := sound.advance call now
  exact ⟨next', sound'⟩

/-- Taking in a message leaves a sound store. -/
theorem Sound.insertMessage (sound : store.Sound next) (target sender : ClientId)
    (type : MessageType) (content : Bytes) (now : Timestamp) :
    ∃ next', ((RelayStore.insertMessage target sender type content).run store).state.Sound
      next' := by
  have performed := sound.perform (.insertMessage target sender type content) now
  rw [StoreCall.perform, Action.run_bind_pure] at performed
  exact performed

/-- Removing a message leaves a sound store. -/
theorem Sound.deleteMessage (sound : store.Sound next) (id : UInt32) (now : Timestamp) :
    ∃ next', ((RelayStore.deleteMessage id).run store).state.Sound next' := by
  have performed := sound.perform (.deleteMessage id) now
  rw [StoreCall.perform, Action.run_bind_pure] at performed
  exact performed

/-! ## Closing and opening -/

/-- What of a store outlasts its closing. -/
def lasting (store : Backend) : Contents :=
  match store with
  | .memory _ => .empty
  | .files store => store.contents

/-- A store that is closed and opened again has what outlasts its closing. -/
theorem Sound.reopen (sound : store.Sound next) :
    (reopen.run store).result = .ok () ∧ (reopen.run store).state.contents = store.lasting ∧
      (reopen.run store).state.mailbox.nextId = (if store.folder?.isSome then next else 1) ∧
      (reopen.run store).state.Sound next := by
  cases store with
  | memory store =>
    have none : Contents.of .empty .empty = .empty := by
      simp [Contents.of, Contents.empty, Directory.sorted, Directory.empty, Mailbox.empty]
    exact ⟨rfl, none, rfl, Volatile.sound_empty⟩
  | files store =>
    obtain ⟨opened, result, -, opened_sound, contents, number, -⟩ :=
      Durable.openFolder_of_holds (Durable.Sound.holds sound)
    have run : Backend.reopen.run (files store)
        = ⟨.ok (), files opened, (Durable.openFolder.run store.folder).notices⟩ := by
      simp only [Backend.reopen, result]
    rw [run]
    exact ⟨rfl, contents, number, opened_sound⟩

/-- The store closed and opened again, if it is in files. One in memory would be lost and is kept
open. -/
def restarted (store : Backend) : Backend :=
  match store with
  | .memory store => .memory store
  | .files store => (reopen.run (.files store)).state

/-- A restart changes no client. -/
theorem Sound.restarted (sound : store.Sound next) :
    (∃ next', store.restarted.Sound next') ∧
      store.restarted.directory.sorted = store.directory.sorted := by
  cases store with
  | memory store => exact ⟨⟨next, sound⟩, rfl⟩
  | files store =>
    obtain ⟨-, contents, -, sound'⟩ := sound.reopen
    exact ⟨⟨next, sound'⟩, congrArg Contents.clients contents⟩

/-- A store as calls and reopenings leave it that began without clients and messages. -/
inductive Reached : Backend → Prop where
  | fresh {store : Backend} (fresh : store.Fresh) : Reached store
  | call {store : Backend} (reached : Reached store) (call : StoreCall) (now : Timestamp) :
      Reached ((call.perform now).run store).state
  | reopen {store : Backend} (reached : Reached store) : Reached (reopen.run store).state

/-- A fresh store is sound. -/
theorem Fresh.sound (fresh : store.Fresh) : ∃ next, store.Sound next := by
  cases fresh with
  | memory => exact ⟨1, Volatile.sound_empty⟩
  | files folder store noSnapshot noJournal opened =>
    obtain ⟨store', opened', -, sound, -⟩ :=
      Durable.openFolder_of_holds (DataFolder.holds_nothing noSnapshot noJournal)
    cases opened.symm.trans opened'
    exact ⟨1, sound⟩

/-- Whatever was called, the files hold what is in memory. -/
theorem Reached.sound (reached : store.Reached) : ∃ next, store.Sound next := by
  induction reached with
  | fresh fresh => exact fresh.sound
  | call _ call now ih =>
    obtain ⟨next, sound⟩ := ih
    exact sound.perform call now
  | reopen _ ih =>
    obtain ⟨next, sound⟩ := ih
    exact ⟨next, sound.reopen.2.2.2⟩

end Backend

end MessageRelay.Store
