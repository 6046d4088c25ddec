import MessageRelay.Proofs.Store.EitherKind

/-!
# The parts of a mailbox agree

A mailbox keeps its messages, the owners of their numbers and the number that comes next, which its
operations change one by one. Beside a store of either kind runs a ledger of the numbers that it has
given. Whatever is called, whichever writes fail, and however often the store is closed and opened
again, the parts agree with each other and with the ledger (`Mailbox.Coherent`), and the calls do to
them what they are for (`Backend.Orderly`). This is `Ledger.run_coherent`.
-/

set_option autoImplicit false

namespace MessageRelay.Store

open Protocol (ClientId MessageType)

/-! ## Coherence -/

/-- The parts of a mailbox agree with each other and with the numbers that were given. -/
structure Mailbox.Coherent (issued : List UInt32) (mailbox : Mailbox) : Prop where
  distinct : (mailbox.messages.map (·.id)).Nodup
  owned : ∀ id client, mailbox.owners.find? id = some client ↔
    ∃ message ∈ mailbox.unread client, message.id = id
  addressed : ∀ client, ∀ message ∈ mailbox.unread client, message.target = client
  ordered : ∀ client, (mailbox.unread client).Pairwise fun a b => a.id < b.id
  increasing : issued.Pairwise (· < ·)
  waiting : ∀ message ∈ mailbox.messages, message.id ∈ issued
  numbered : ∀ id ∈ issued, 1 ≤ id ∧ id < mailbox.nextId

/-- A well kept mailbox is coherent with the numbers that were given, if these increase and stay
below the next one. -/
theorem Mailbox.WellKept.coherent {mailbox : Mailbox} (kept : mailbox.WellKept)
    {issued : List UInt32} (increasing : issued.Pairwise (· < ·))
    (waiting : ∀ message ∈ mailbox.messages, message.id ∈ issued)
    (numbered : ∀ id ∈ issued, 1 ≤ id ∧ id < mailbox.nextId) : mailbox.Coherent issued where
  distinct := by
    rw [List.Nodup, List.pairwise_map]
    exact kept.ordered.imp fun below => UInt32.ne_of_lt below
  owned id client := by
    rw [kept.owned]
    simp only [mem_unread_iff]
    constructor
    · rintro ⟨message, waits, rfl, target⟩
      exact ⟨message, ⟨waits, target⟩, rfl⟩
    · rintro ⟨message, ⟨waits, target⟩, rfl⟩
      exact ⟨message, waits, rfl, target⟩
  addressed client message waits := (mem_unread_iff.1 waits).2
  ordered client := kept.ordered.filter _
  increasing := increasing
  waiting := waiting
  numbered := numbered

/-- A queue in which a number does not wait is not changed by removing it. -/
theorem Mailbox.WellKept.unread_forget_of_not_owner {mailbox : Mailbox} (kept : mailbox.WellKept)
    {id : UInt32} {client : ClientId} (other : mailbox.owners.find? id ≠ some client) :
    (mailbox.forget id).unread client = mailbox.unread client := by
  rw [kept.unread_forget, List.filter_eq_self]
  intro message waits
  obtain ⟨waits, target⟩ := mem_unread_iff.1 waits
  refine decide_eq_true fun same => other ?_
  exact (kept.owned id client).2 ⟨message, waits, same, target⟩

namespace Backend

variable {store : Backend} {next : UInt32}

/-! ## Calls -/

/-- What the calls that change a mailbox do to it. -/
structure Orderly (store : Backend) : Prop where
  /-- When no number is left, no message is taken in and nothing changes. -/
  exhausted : store.mailbox.nextId = Mailbox.lastId → ∀ target sender type content,
    (RelayStore.insertMessage target sender type content).run store
      = ⟨.error .idsExhausted, store, []⟩
  /-- A message that is not taken in leaves the others and their owners. -/
  refused : ∀ target sender type content e,
    ((RelayStore.insertMessage target sender type content).run store).result = .error e →
      let left := ((RelayStore.insertMessage target sender type content).run store).state.mailbox
      left.messages = store.mailbox.messages ∧ left.owners = store.mailbox.owners
  /-- A removal that fails leaves the mailbox. -/
  unremoved : ∀ id e, ((RelayStore.deleteMessage id).run store).result = .error e →
    ((RelayStore.deleteMessage id).run store).state.mailbox = store.mailbox
  /-- A removal that does not fail tells whether the message waited, and takes out no other. -/
  removed : ∀ id found, ((RelayStore.deleteMessage id).run store).result = .ok found →
    let left := ((RelayStore.deleteMessage id).run store).state.mailbox
    (found = true ↔ ∃ message ∈ store.mailbox.messages, message.id = id) ∧
      left.messages = store.mailbox.messages.filter (fun message => message.id ≠ id) ∧
      ∀ client, store.mailbox.owners.find? id ≠ some client →
        left.unread client = store.mailbox.unread client

/-- When no number is left, no message is taken in and nothing changes. -/
theorem run_insertMessage_of_exhausted (exhausted : store.mailbox.nextId = Mailbox.lastId)
    (target sender : ClientId) (type : MessageType) (content : Bytes) :
    (RelayStore.insertMessage target sender type content).run store
      = ⟨.error .idsExhausted, store, []⟩ := by
  have none : store.mailbox.allocate = .error .idsExhausted := if_pos exhausted
  cases store with
  | memory store =>
    have none : store.mailbox.allocate = .error .idsExhausted := none
    have run : (Volatile.insertMessage target sender type content).run store
        = ⟨.error .idsExhausted, store, []⟩ := by
      simp [Volatile.insertMessage, Action.run_bind, none]
    simp only [RelayStore.insertMessage, either, run]
  | files store =>
    have none : store.mailbox.allocate = .error .idsExhausted := none
    have run : (Durable.insertMessage target sender type content).run store
        = ⟨.error .idsExhausted, store, []⟩ := by
      simp [Durable.insertMessage, Action.run_bind, none]
    simp only [RelayStore.insertMessage, either, run]

/-- The calls that change the mailbox of a sound store do to it what they should. -/
theorem Sound.orderly (sound : store.Sound next) : store.Orderly where
  exhausted := run_insertMessage_of_exhausted
  refused target sender type content e failed := by
    have outcome := MailboxStore.insertMessage_outcome target sender type content store
    rw [failed] at outcome
    change TakeOutcome target sender type content store.mailbox (.error e) _ at outcome
    generalize ((RelayStore.insertMessage target sender type content).run store).state = left
      at outcome
    change TakeOutcome target sender type content store.mailbox (.error e) left.mailbox at outcome
    show left.mailbox.messages = _ ∧ left.mailbox.owners = _
    generalize left.mailbox = mailbox at outcome
    cases outcome <;> exact ⟨rfl, rfl⟩
  unremoved id e failed := by
    have outcome := MailboxStore.deleteMessage_outcome id store
    rw [failed] at outcome
    generalize ((RelayStore.deleteMessage id).run store).state = left at outcome
    change RemovalOutcome id store.mailbox (.error e) left.mailbox at outcome
    show left.mailbox = _
    generalize left.mailbox = mailbox at outcome
    cases outcome
    rfl
  removed id found done := by
    have outcome := MailboxStore.deleteMessage_outcome id store
    rw [done] at outcome
    generalize ((RelayStore.deleteMessage id).run store).state = left at outcome
    change RemovalOutcome id store.mailbox (.ok found) left.mailbox at outcome
    show _ ∧ left.mailbox.messages = _ ∧ ∀ client, _ → left.mailbox.unread client = _
    generalize left.mailbox = mailbox at outcome
    cases outcome
    refine ⟨sound.kept.contains_iff id, sound.kept.messages_forget id, ?_⟩
    intro client other
    exact sound.kept.unread_forget_of_not_owner other

/-- The number that lasts is never zero. -/
theorem Sound.floor_pos (sound : store.Sound next) : 0 < store.floor next := by
  cases store with
  | memory store => exact (Volatile.Sound.kept sound).positive
  | files store =>
    obtain ⟨entries, log, -, -, kept, -, number⟩ := Durable.Sound.journal sound
    exact number ▸ kept.positive

/-- The number that lasts is not above the one in memory. -/
theorem Sound.floor_le (sound : store.Sound next) : store.floor next ≤ store.mailbox.nextId := by
  cases store with
  | memory store => exact UInt32.le_refl _
  | files store => exact Durable.Sound.bound sound

/-- Opening a store again goes on from the number that lasts. -/
theorem floor_reopen (store : Durable) (next : UInt32) :
    (reopen.run (.files store)).state.floor next = next := by
  simp only [reopen]
  split <;> rfl

end Backend

/-! ## Runs -/

/-- Something that happens to a store: a call, which may fail, or closing and opening it again. -/
inductive StoreEvent where
  | call (call : StoreCall) (now : Timestamp)
  | reopen

/-- A store with the numbers that it has given to messages, oldest first. -/
structure Ledger where
  store : Backend
  issued : List UInt32

namespace Ledger

/-- A store to which nothing happened yet. -/
def begin (store : Backend) : Ledger :=
  ⟨store, []⟩

/-- What an event leaves. A store in memory does not outlast its closing; its life ends there, and
that of another one begins. -/
def step (ledger : Ledger) : StoreEvent → Ledger
  | .call call now =>
    let out := (call.perform now).run ledger.store
    ⟨out.state, ledger.issued ++ numbersOf out.result⟩
  | .reopen =>
    ⟨(Backend.reopen.run ledger.store).state,
      if ledger.store.folder?.isSome then ledger.issued else []⟩

/-- Where one event after the other leads. -/
def run (ledger : Ledger) (events : List StoreEvent) : Ledger :=
  events.foldl step ledger

/-- What every event preserves: the store is sound, the messages that wait have numbers that were
given, and all numbers that were given are below the one that comes next in what lasts of it. -/
structure Invariant (ledger : Ledger) : Prop where
  increasing : ledger.issued.Pairwise (· < ·)
  waiting : ∀ message ∈ ledger.store.mailbox.messages, message.id ∈ ledger.issued
  numbered : ∃ next, ledger.store.Sound next ∧
    ∀ id ∈ ledger.issued, 1 ≤ id ∧ id < ledger.store.floor next

/-- The invariant holds before any event. -/
theorem invariant_begin {store : Backend} (fresh : store.Fresh) : (begin store).Invariant where
  increasing := List.Pairwise.nil
  waiting message waits := by
    change message ∈ store.mailbox.messages at waits
    rw [fresh.mailbox_eq] at waits
    cases waits
  numbered := by
    obtain ⟨next, sound⟩ := fresh.sound
    exact ⟨next, sound, by simp [begin]⟩

/-- A call keeps the invariant. -/
theorem Invariant.call {ledger : Ledger} (h : ledger.Invariant) (call : StoreCall)
    (now : Timestamp) : (ledger.step (.call call now)).Invariant := by
  obtain ⟨next, sound, numbered⟩ := h.numbered
  obtain ⟨next', sound', contents, grown, numbers⟩ := sound.advance call now
  refine ⟨?_, ?_, next', sound', ?_⟩
  · exact pairwise_append_numbersOf h.increasing (fun id given => (numbered id given).2)
      fun id given => (numbers id given).1
  · intro message waits
    have waits : message ∈ (ledger.store.contents.after now call
        ((call.perform now).run ledger.store).result).messages := by
      rw [← contents]
      exact waits
    obtain before | given := Contents.mem_messages_after waits
    · exact List.mem_append_left _ (h.waiting message before)
    · exact List.mem_append_right _ given
  · intro id given
    obtain before | given := List.mem_append.1 given
    · exact ⟨(numbered id before).1, UInt32.lt_of_lt_of_le (numbered id before).2 grown⟩
    · obtain ⟨above, below⟩ := numbers id given
      have one : (1 : UInt32) ≤ ledger.store.floor next := by
        have positive := UInt32.lt_iff_toNat_lt.1 sound.floor_pos
        exact UInt32.le_iff_toNat_le.2 positive
      exact ⟨UInt32.le_trans one above, below⟩

/-- Opening the store again keeps the invariant. -/
theorem Invariant.reopen {ledger : Ledger} (h : ledger.Invariant) :
    (ledger.step .reopen).Invariant := by
  obtain ⟨next, sound, numbered⟩ := h.numbered
  obtain ⟨-, contents, number, sound'⟩ := sound.reopen
  obtain ⟨store, issued⟩ := ledger
  cases store with
  | memory store =>
    refine ⟨List.Pairwise.nil, ?_, next, sound', by simp [step, Backend.folder?]⟩
    intro message waits
    cases waits
  | files store =>
    refine ⟨h.increasing, ?_, next, sound', ?_⟩
    · intro message waits
      have waits : message ∈ (Backend.reopen.run (.files store)).state.contents.messages := waits
      rw [contents] at waits
      exact h.waiting message waits
    · intro id given
      change 1 ≤ id ∧ id < (Backend.reopen.run (.files store)).state.floor next
      rw [Backend.floor_reopen]
      exact numbered id given

/-- The invariant holds over any events. -/
theorem Invariant.run {ledger : Ledger} (h : ledger.Invariant) (events : List StoreEvent) :
    (ledger.run events).Invariant := by
  induction events generalizing ledger with
  | nil => exact h
  | cons event events ih =>
    cases event with
    | call call now => exact ih (h.call call now)
    | reopen => exact ih h.reopen

/-- In every store, of either kind, that began without clients and messages, the parts of the mailbox
agree with each other and with the numbers that were given, and its calls do what they are for. -/
theorem run_coherent {store : Backend} (fresh : store.Fresh) (events : List StoreEvent) :
    let ledger := (begin store).run events
    ledger.store.mailbox.Coherent ledger.issued ∧ ledger.store.Orderly := by
  have h := (invariant_begin fresh).run events
  obtain ⟨next, sound, numbered⟩ := h.numbered
  refine ⟨sound.kept.coherent h.increasing h.waiting ?_, sound.orderly⟩
  intro id given
  obtain ⟨positive, below⟩ := numbered id given
  exact ⟨positive, UInt32.lt_of_lt_of_le below sound.floor_le⟩

/-- Two messages for a client, the first of which is removed. -/
def firstRemoved : List StoreEvent :=
  let evening : Timestamp := ⟨⟨2026, 5, 4, by decide⟩, 18, 30, 0, 0, by decide⟩
  [.call (.insertMessage (.ofBytes [1]) (.ofBytes [2]) .textMessage [42]) evening,
    .call (.insertMessage (.ofBytes [1]) (.ofBytes [2]) .textMessage [43]) evening,
    .call (.deleteMessage 1) evening]

/-- Two messages are taken in and the first one is removed. -/
theorem run_coherent_firstRemoved :
    Backend.Fresh (.memory .empty) ∧
      ∃ mailbox : Mailbox, mailbox.Coherent [1, 2] ∧
        mailbox.messages = [⟨2, .ofBytes [1], .ofBytes [2], .textMessage, [43]⟩] ∧
        mailbox.owners = [(2, .ofBytes [1])] ∧ mailbox.nextId = 3 :=
  ⟨.memory, _, (run_coherent .memory firstRemoved).1, rfl, rfl, rfl⟩

end Ledger

end MessageRelay.Store
