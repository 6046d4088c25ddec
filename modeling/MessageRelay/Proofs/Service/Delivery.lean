import MessageRelay.Proofs.Service.Visit

/-!
# Messages over a whole run

However connections come in, every message that was taken in either waits or has been handed over
once, to its target (`attendAll_delivers`). The invariant behind it (`Accounted`) says that the
mailbox holds the messages that were taken in without those that were handed over. A connection
that takes in messages extends both sides alike, and one that hands messages over takes the same
messages from both. A removal that fails would leave a message that was handed over, so the run is
one without such removals; a store in memory has none (`unremoved_of_memory`).
-/

set_option autoImplicit false

namespace MessageRelay.Service

open Connection
open Protocol
open Store (Backend Chronicle Durable Mailbox MailboxStore RelayStore StoredMessage StoreError
  Volatile)

/-- Serves connections one after the other. -/
def attendAll {σ : Type} [RelayStore σ] (packetSize : Nat) : List Visit → σ → List Attendance × σ
  | [], store => ([], store)
  | visit :: visits, store =>
    let (attendance, store') := attend packetSize visit store
    let (later, store'') := attendAll packetSize visits store'
    (attendance :: later, store'')

/-- The messages that were taken in, oldest first. -/
def acceptedIn (history : List Attendance) : List StoredMessage :=
  history.flatMap (·.accepted)

/-- The entries that were handed over, each with the client that the header named. -/
def handedOverIn (history : List Attendance) : List (Option ClientId × MessageEntry) :=
  history.flatMap fun attendance =>
    attendance.handedOver.map fun entry => (attendance.caller?, entry)

/-- What is handed over of a message, if it is handed to its target. -/
def receipt (message : StoredMessage) : Option ClientId × MessageEntry :=
  (some message.target, entryOf message)

/-! ## The invariant -/

/-- The mailbox holds what was taken in and not handed over, and nothing was handed over twice. -/
structure Accounted (history : List Attendance) (mailbox : Mailbox) : Prop where
  kept : mailbox.WellKept
  ordered : (acceptedIn history).Pairwise fun a b => a.id < b.id
  numbered : ∀ message ∈ acceptedIn history, message.id < mailbox.nextId
  signed : ∀ attendance ∈ history, ∀ message ∈ attendance.accepted,
    attendance.caller? = some message.sender
  waiting : mailbox.messages
    = (acceptedIn history).filter fun message => receipt message ∉ handedOverIn history
  known : ∀ handed ∈ handedOverIn history, ∃ message ∈ acceptedIn history, handed = receipt message
  once : (handedOverIn history).Nodup

/-- An empty mailbox is accounted for before any connection. -/
theorem accounted_nil : Accounted [] .empty where
  kept := Mailbox.wellKept_empty
  ordered := List.Pairwise.nil
  numbered := by simp [acceptedIn]
  signed := by simp
  waiting := rfl
  known := by simp [handedOverIn]
  once := List.nodup_nil

/-- A connection adds what it accepted to what was accepted before. -/
theorem acceptedIn_snoc (history : List Attendance) (attendance : Attendance) :
    acceptedIn (history ++ [attendance]) = acceptedIn history ++ attendance.accepted := by
  simp [acceptedIn]

/-- A connection adds what it handed over, under the name of its caller, to what was handed over
before. -/
theorem handedOverIn_snoc (history : List Attendance) (attendance : Attendance) :
    handedOverIn (history ++ [attendance])
      = handedOverIn history
        ++ attendance.handedOver.map fun entry => (attendance.caller?, entry) := by
  simp [handedOverIn]

/-- No message was handed over under a number that is still to be given. -/
theorem Accounted.receipt_not_mem {history : List Attendance} {mailbox : Mailbox}
    (accounted : Accounted history mailbox) {message : StoredMessage}
    (h : mailbox.nextId ≤ message.id) : receipt message ∉ handedOverIn history := by
  intro hm
  obtain ⟨other, ho, same⟩ := accounted.known _ hm
  have sameId : message.id = other.id := congrArg (fun r => r.2.id) same
  have below := accounted.numbered other ho
  rw [← sameId] at below
  exact UInt32.lt_irrefl _ (UInt32.lt_of_lt_of_le below h)

/-- What waits in the mailbox is what was accepted and not handed over yet. -/
theorem Accounted.mem_messages_iff {history : List Attendance} {mailbox : Mailbox}
    (accounted : Accounted history mailbox) {message : StoredMessage} :
    message ∈ mailbox.messages ↔
      message ∈ acceptedIn history ∧ receipt message ∉ handedOverIn history := by
  rw [accounted.waiting, List.mem_filter, decide_eq_true_eq]

/-- A message that was not handed over yet has a receipt among those of what waits for a client
exactly if it is to this client. -/
theorem Accounted.receipt_mem_unread_iff {history : List Attendance} {mailbox : Mailbox}
    (accounted : Accounted history mailbox) {message : StoredMessage}
    (accepted : message ∈ acceptedIn history) (absent : receipt message ∉ handedOverIn history)
    (client : ClientId) :
    receipt message ∈ (mailbox.unread client).map receipt ↔ message.target = client := by
  constructor
  · intro listed
    obtain ⟨other, waits, same⟩ := List.mem_map.1 listed
    have sameTarget : some other.target = some message.target := congrArg Prod.fst same
    rw [← Option.some.inj sameTarget]
    exact (Mailbox.mem_unread_iff.1 waits).2
  · intro target
    exact List.mem_map_of_mem
      (Mailbox.mem_unread_iff.2 ⟨accounted.mem_messages_iff.2 ⟨accepted, absent⟩, target⟩)

/-- The receipts of what waits for a client are all different. -/
theorem nodup_map_receipt {mailbox : Mailbox} (kept : mailbox.WellKept) (client : ClientId) :
    ((mailbox.unread client).map receipt).Nodup := by
  have distinct : (mailbox.unread client).Pairwise fun a b => a.id < b.id := kept.ordered.filter _
  rw [List.Nodup, List.pairwise_map]
  refine distinct.imp ?_
  intro a b hlt same
  exact UInt32.ne_of_lt hlt (congrArg (fun r => r.2.id) same)

/-- The account holds after a connection that only takes in messages. -/
theorem Accounted.takeIn {history : List Attendance} {mailbox mailbox' : Mailbox}
    {attendance : Attendance} (accounted : Accounted history mailbox)
    (h : attendance.TakesIn mailbox mailbox') :
    Accounted (history ++ [attendance]) mailbox' := by
  have handed : handedOverIn (history ++ [attendance]) = handedOverIn history := by
    simp [handedOverIn_snoc, h.handedOver]
  refine {
    kept := h.grows.kept accounted.kept
    ordered := ?_
    numbered := ?_
    signed := ?_
    waiting := ?_
    known := ?_
    once := ?_ }
  · rw [acceptedIn_snoc, List.pairwise_append]
    refine ⟨accounted.ordered, h.grows.ordered, ?_⟩
    intro a ha b hb
    exact UInt32.lt_of_lt_of_le (accounted.numbered a ha) (h.grows.numbered b hb).1
  · intro message hm
    rw [acceptedIn_snoc] at hm
    obtain hm | hm := List.mem_append.1 hm
    · exact UInt32.lt_of_lt_of_le (accounted.numbered message hm) h.grows.nextId
    · exact (h.grows.numbered message hm).2
  · intro other ho
    obtain ho | ho := List.mem_append.1 ho
    · exact accounted.signed other ho
    · rw [List.mem_singleton.1 ho]
      exact h.signed
  -- the new numbers were never handed over before, so every new message waits
  · have all : attendance.accepted.filter (fun message => receipt message ∉ handedOverIn history)
        = attendance.accepted := by
      rw [List.filter_eq_self]
      intro message hm
      have absent := accounted.receipt_not_mem (h.grows.numbered message hm).1
      simpa using absent
    rw [handed, acceptedIn_snoc, List.filter_append, all, ← accounted.waiting]
    exact h.grows.messages
  · rw [handed]
    intro other ho
    obtain ⟨message, hm, same⟩ := accounted.known other ho
    refine ⟨message, ?_, same⟩
    rw [acceptedIn_snoc]
    exact List.mem_append_left _ hm
  · rw [handed]
    exact accounted.once

/-- The account holds after a connection that hands over messages and removes all of them. -/
theorem Accounted.handOver {history : List Attendance} {mailbox mailbox' : Mailbox}
    {attendance : Attendance} {client : ClientId} (accounted : Accounted history mailbox)
    (h : attendance.HandsOver client mailbox mailbox') (removals : attendance.unremoved = []) :
    Accounted (history ++ [attendance]) mailbox' := by
  have accepted : acceptedIn (history ++ [attendance]) = acceptedIn history := by
    rw [acceptedIn_snoc, h.accepted, List.append_nil]
  -- what is handed over now are the receipts of all that waits for the client
  have handed : handedOverIn (history ++ [attendance])
      = handedOverIn history ++ (mailbox.unread client).map receipt := by
    rw [handedOverIn_snoc, h.handedOver, h.caller, List.map_map]
    congr 1
    apply List.map_congr_left
    intro message hm
    simp [receipt, (Mailbox.mem_unread_iff.1 hm).2]
  have waits : ∀ message ∈ mailbox.unread client,
      message ∈ acceptedIn history ∧ receipt message ∉ handedOverIn history :=
    fun message hm => accounted.mem_messages_iff.1 (Mailbox.mem_unread_iff.1 hm).1
  obtain ⟨kept, messages, nextId⟩ :=
    accounted.kept.forgetAll ((mailbox.unread client).map (·.id))
  rw [← h.removed removals] at kept messages nextId
  rw [accounted.kept.forget_unread] at messages
  refine {
    kept := kept
    ordered := accepted ▸ accounted.ordered
    numbered := ?_
    signed := ?_
    waiting := ?_
    known := ?_
    once := ?_ }
  · rw [accepted, nextId]
    exact accounted.numbered
  · intro other ho
    obtain ho | ho := List.mem_append.1 ho
    · exact accounted.signed other ho
    · rw [List.mem_singleton.1 ho, h.accepted]
      simp
  · rw [messages, accounted.waiting, List.filter_filter, accepted, handed]
    apply List.filter_congr
    intro message hm
    by_cases absent : receipt message ∈ handedOverIn history
    · simp [absent]
    · simp only [List.mem_append, absent, false_or,
        accounted.receipt_mem_unread_iff hm absent client, not_false_eq_true, decide_true,
        Bool.and_true, ne_eq]
  · rw [handed, accepted]
    intro other ho
    obtain ho | ho := List.mem_append.1 ho
    · exact accounted.known other ho
    · obtain ⟨message, hm, rfl⟩ := List.mem_map.1 ho
      exact ⟨message, (waits message hm).1, rfl⟩
  · rw [handed, List.nodup_append]
    refine ⟨accounted.once, nodup_map_receipt accounted.kept client, ?_⟩
    intro a ha b hb hab
    obtain ⟨message, hm, rfl⟩ := List.mem_map.1 hb
    exact (waits message hm).2 (hab ▸ ha)

/-! ## The run -/

variable {σ : Type} [RelayStore σ] [MailboxStore σ]

/-- The account holds after any connection on which no removal fails. -/
theorem Accounted.attend {history : List Attendance} {packetSize : Nat} {visit : Visit} {store : σ}
    (accounted : Accounted history (MailboxStore.mailbox store))
    (removals : (attend packetSize visit store).1.unremoved = []) :
    Accounted (history ++ [(attend packetSize visit store).1])
      (MailboxStore.mailbox (attend packetSize visit store).2) := by
  obtain takesIn | ⟨client, handsOver⟩ := attend_effect packetSize visit store
  · exact accounted.takeIn takesIn
  · exact accounted.handOver handsOver removals

/-- The account holds after any number of connections on which no removal fails. -/
theorem Accounted.attendAll {packetSize : Nat} (visits : List Visit) {history : List Attendance}
    {store : σ} (accounted : Accounted history (MailboxStore.mailbox store))
    (removals : ∀ attendance ∈ (attendAll packetSize visits store).1, attendance.unremoved = []) :
    Accounted (history ++ (attendAll packetSize visits store).1)
      (MailboxStore.mailbox (attendAll packetSize visits store).2) := by
  induction visits generalizing history store with
  | nil =>
    simp only [Service.attendAll, List.append_nil]
    exact accounted
  | cons visit visits ih =>
    simp only [Service.attendAll, List.mem_cons, forall_eq_or_imp] at removals ⊢
    have next := ih (accounted.attend removals.1) removals.2
    rw [List.append_assoc] at next
    exact next

/-! ## Stores in memory -/

/-- A chronicle of a store in memory on which no removal failed. -/
def InMemory (chronicle : Chronicle Backend) : Prop :=
  (∃ volatile, chronicle.store = .memory volatile) ∧ chronicle.unremoved = []

/-- An operation that keeps a store in memory notes no failed removal. -/
theorem alike_inMemory_passing {α : Type} {action : Action Backend StoreError α}
    (h : ∀ volatile, ∃ volatile', (action.run (.memory volatile)).state = .memory volatile') :
    Action.Alike (fun (c c' : Chronicle Backend) => c = c' ∧ InMemory c)
      (Chronicle.passing action) (Chronicle.passing action) := by
  apply Action.alike_of_invariant
  rintro ⟨_, accepted, unremoved⟩ ⟨⟨volatile, rfl⟩, none_⟩
  exact ⟨h volatile, none_⟩

/-- The operations of a store keep it in memory and note no failed removal. -/
theorem storesAlike_inMemory (client : ClientId) :
    StoresAlike (fun (c c' : Chronicle Backend) => c = c' ∧ InMemory c) client where
  hasId _ := alike_inMemory_passing fun _ => ⟨_, rfl⟩
  hasName _ := alike_inMemory_passing fun _ => ⟨_, rfl⟩
  insertClient _ _ _ _ := alike_inMemory_passing fun _ => ⟨_, rfl⟩
  clients := alike_inMemory_passing fun _ => ⟨_, rfl⟩
  publicKey _ := alike_inMemory_passing fun _ => ⟨_, rfl⟩
  idByName _ := alike_inMemory_passing fun _ => ⟨_, rfl⟩
  updateLastSeen _ _ := alike_inMemory_passing fun _ => ⟨_, rfl⟩
  insertMessage target type content := by
    apply Action.alike_of_invariant
    rintro ⟨_, accepted, unremoved⟩ ⟨⟨volatile, rfl⟩, none_⟩
    show InMemory (Action.run (Chronicle.noting _ _) _).state
    rw [Chronicle.run_noting]
    refine ⟨⟨_, Chronicle.store_noteTaken _ _ _ _ _ _⟩, ?_⟩
    generalize (Action.run _ _).result = result
    cases result <;> exact none_
  unread _ := alike_inMemory_passing fun _ => ⟨_, rfl⟩

/-- A removal from a store in memory is never noted as failed. -/
theorem alike_inMemory_deleteMessage (id : UInt32) :
    Action.Alike (fun (c c' : Chronicle Backend) => c = c' ∧ InMemory c)
      (RelayStore.deleteMessage id) (RelayStore.deleteMessage id) := by
  apply Action.alike_of_invariant
  rintro ⟨_, accepted, unremoved⟩ ⟨⟨volatile, rfl⟩, none_⟩
  exact ⟨⟨_, rfl⟩, none_⟩

/-- On no connection to a store in memory does a removal fail. -/
theorem unremoved_of_memory (packetSize : Nat) (visits : List Visit) (volatile : Volatile) :
    ∀ attendance ∈ (attendAll packetSize visits (Backend.memory volatile)).1,
      attendance.unremoved = [] := by
  induction visits generalizing volatile with
  | nil => simp [Service.attendAll]
  | cons visit visits ih =>
    have same : Cycle.Alike (fun (c c' : Chronicle Backend) => c = c' ∧ InMemory c)
        (visit.start packetSize (.memory volatile)) (visit.start packetSize (.memory volatile)) :=
      ⟨⟨rfl, ⟨volatile, rfl⟩, rfl⟩, rfl, rfl⟩
    have served := Relay.alike_dispatch (Relay.ofPacketSize packetSize) visit.circumstances
      visit.peer storesAlike_inMemory alike_inMemory_deleteMessage _ _ same
    obtain ⟨-, ⟨volatile', stays⟩, none_⟩ := served.states.store
    have left_ : (Service.attend packetSize visit (Backend.memory volatile)).2
        = .memory volatile' := stays
    simp only [Service.attendAll, List.mem_cons, forall_eq_or_imp]
    refine ⟨none_, ?_⟩
    rw [left_]
    exact ih volatile'

/-! ## Faithful delivery -/

/-- What a run makes of messages, told by its history, the store it leaves and the packet size. -/
structure Faithful (packetSize : Nat) (history : List Attendance) (store : Backend) : Prop where
  /-- Messages get increasing numbers. -/
  ordered : (acceptedIn history).Pairwise fun a b => a.id < b.id
  /-- The sender of a message is the client that the header of its request names. -/
  signed : ∀ attendance ∈ history, ∀ message ∈ attendance.accepted,
    attendance.caller? = some message.sender
  /-- A message either waits or was handed over, to its target and once. -/
  partitioned : ∀ message ∈ acceptedIn history,
    message ∈ store.mailbox.messages ∧ (handedOverIn history).count (receipt message) = 0 ∨
    message ∉ store.mailbox.messages ∧ (handedOverIn history).count (receipt message) = 1
  /-- Nothing is handed over but accepted messages to their targets. -/
  known : ∀ handed ∈ handedOverIn history, ∃ message ∈ acceptedIn history, handed = receipt message
  /-- What waits for a client are the messages to it that were not handed over, in order. -/
  unread : ∀ client, store.mailbox.unread client
    = (acceptedIn history).filter fun message =>
        message.target = client ∧ (handedOverIn history).count (receipt message) = 0
  /-- A connection whose reply does not go out removes nothing. -/
  unsent : ∀ visit, (Service.attend packetSize visit store).1.sent = false →
    store.mailbox.messages <+: (Service.attend packetSize visit store).2.mailbox.messages

/-- Over any run of connections on a store that was never used, no message is lost, handed over
twice or handed to another client than its target. -/
theorem attendAll_faithful (packetSize : Nat) (store : Backend) (fresh : store.Fresh)
    (visits : List Visit)
    (removals : ∀ durable, store = .files durable →
      ∀ attendance ∈ (attendAll packetSize visits store).1, attendance.unremoved = []) :
    Faithful packetSize (attendAll packetSize visits store).1
      (attendAll packetSize visits store).2 := by
  have removed : ∀ attendance ∈ (attendAll packetSize visits store).1,
      attendance.unremoved = [] := by
    cases store with
    | memory volatile => exact unremoved_of_memory packetSize visits volatile
    | files durable => exact removals durable rfl
  have first : Accounted [] (MailboxStore.mailbox store) := by
    show Accounted [] store.mailbox
    rw [fresh.mailbox_eq]
    exact accounted_nil
  have accounted := first.attendAll visits removed
  rw [List.nil_append] at accounted
  generalize (attendAll packetSize visits store).1 = history at accounted ⊢
  generalize (attendAll packetSize visits store).2 = store' at accounted ⊢
  have waiting : store'.mailbox.messages
      = (acceptedIn history).filter fun message => receipt message ∉ handedOverIn history :=
    accounted.waiting
  refine {
    ordered := accounted.ordered
    signed := accounted.signed
    partitioned := ?_
    known := accounted.known
    unread := ?_
    unsent := ?_ }
  · intro message hm
    rw [waiting, List.mem_filter]
    by_cases handed : receipt message ∈ handedOverIn history
    · right
      refine ⟨by simp [handed], ?_⟩
      rw [accounted.once.count, if_pos handed]
    · left
      exact ⟨⟨hm, by simpa using handed⟩, List.count_eq_zero.2 handed⟩
  · intro client
    rw [Mailbox.unread, waiting, List.filter_filter]
    apply List.filter_congr
    intro message _
    simp only [List.count_eq_zero, Bool.decide_and]
  · intro visit unsent
    obtain takesIn | ⟨client, handsOver⟩ := attend_effect packetSize visit store'
    · exact ⟨_, takesIn.grows.messages.symm⟩
    · rw [handsOver.sent] at unsent
      cases unsent

/-- A connection that brings a whole request and takes the whole reply. -/
def Visit.ofRequest (sender : ClientId) (request : Request) : Visit where
  circumstances := {
    now := ⟨⟨2026, 5, 2, by decide⟩, 9, 30, 0, 0, by decide⟩
    candidates := [.ofBytes [1]] }
  incoming := [.chunk ((request.encode sender).toOption.getD [])]
  peer := .willing

/-- A client registers, leaves a message for itself and collects it. -/
def noteToSelf : List Visit :=
  [.ofRequest .unregistered (.register "a" (List.replicate publicKeySize 7)),
    .ofRequest (.ofBytes [1]) (.sendMessage (.ofBytes [1]) 3 [42]),
    .ofRequest (.ofBytes [1]) .unreadMessages]

/-- Over a store in files the note is handed over and then gone. -/
theorem attendAll_noteToSelf :
    ∃ store : Durable, (Durable.openFolder.run (.empty "data")).result = .ok store ∧
      (handedOverIn (attendAll Protocol.packetSize noteToSelf (Backend.files store)).1).length = 1 ∧
      (attendAll Protocol.packetSize noteToSelf (Backend.files store)).2.mailbox.messages = [] ∧
      Faithful Protocol.packetSize
        (attendAll Protocol.packetSize noteToSelf (Backend.files store)).1
        (attendAll Protocol.packetSize noteToSelf (Backend.files store)).2 := by
  have opened : (Durable.openFolder.run (.empty "data")).result = .ok _ :=
    Durable.result_openFolder_of_noFiles rfl rfl
  refine ⟨_, opened, by decide +kernel, by decide +kernel, ?_⟩
  apply attendAll_faithful _ _ (.files _ _ rfl rfl opened)
  intro _ _
  decide +kernel

end MessageRelay.Service
