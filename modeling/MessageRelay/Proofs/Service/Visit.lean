import MessageRelay.Proofs.Connection.Sending
import MessageRelay.Proofs.Service.DispatchSimulation
import MessageRelay.Proofs.Store.Chronicle

/-!
# What one connection does to the messages

A connection that is served either takes in messages from the client that its header names, and
hands over none, or it hands over all that waits for that client and removes it once the reply is
out. The store is watched through a chronicle, over which connections are served as over the store
itself (`dispatchOn_chronicle`).
-/

set_option autoImplicit false

namespace MessageRelay.Service

open Connection
open Protocol
open Store (Backend Chronicle Mailbox MailboxStore RelayStore StoredMessage StoreError)

variable {σ : Type}

/-! ## Sending -/

/-- Answering with a reply does not touch the store. -/
theorem store_answer (relay : Relay) (peer : Peer) (code : RequestCode) (sender : ClientId)
    (reply : Reply) (cycle : Cycle σ) :
    ((relay.answer peer code sender reply).run cycle).state.store = cycle.store := by
  have same : Cycle.Alike (fun (s t : σ) => s = t ∧ s = cycle.store) cycle cycle :=
    ⟨⟨rfl, rfl⟩, rfl, rfl⟩
  exact (Relay.alike_answer relay peer code sender reply _ _ same).states.store.2

/-- A reply that goes out as a whole leaves its messages as delivered. -/
theorem answer_of_sent {relay : Relay} {peer : Peer} {reply : Reply} {cycle : Cycle σ} {n : Nat}
    (code : RequestCode) (sender : ClientId)
    (h : (Outbox.send peer relay.packetSize reply.response cycle.outbox).1 = .ok n) :
    ((relay.answer peer code sender reply).run cycle).result
      = .ok (reply.response.code, reply.delivered) := by
  have written : ((Cycle.sending peer relay.packetSize reply.response).run cycle).result = .ok n :=
    (Cycle.result_sending peer relay.packetSize reply.response cycle).trans h
  simp only [Relay.answer, Action.run_bind, Action.run_attempt, written, Action.run_pure]

/-- A reply that does not go out as a whole delivers nothing. -/
theorem delivered_of_not_sent {relay : Relay} {peer : Peer} {reply : Reply} {cycle : Cycle σ}
    {e : SendError} {code : RequestCode} {sender : ClientId} {answered : ResponseCode × List UInt32}
    (h : (Outbox.send peer relay.packetSize reply.response cycle.outbox).1 = .error e)
    (ha : ((relay.answer peer code sender reply).run cycle).result = .ok answered) :
    answered.2 = [] := by
  have written : ((Cycle.sending peer relay.packetSize reply.response).run cycle).result
      = .error e := (Cycle.result_sending peer relay.packetSize reply.response cycle).trans h
  obtain ⟨attempted, tried, ha, -⟩ := Action.exists_of_run_bind_ok ha
  rw [Action.run_attempt, written] at tried
  cases tried
  cases e with
  | notEncoded cause =>
    obtain ⟨_, -, ha, -⟩ := Action.exists_of_run_bind_ok ha
    obtain ⟨_, -, ha, -⟩ := Action.exists_of_run_bind_ok ha
    cases ha
    rfl
  | stalled => cases ha
  | socket fault => cases ha

variable [RelayStore σ]

/-- Delivered messages are removed one after the other, whatever becomes of the first removal. -/
theorem run_removeDelivered_cons (client : ClientId) (id : UInt32) (ids : List UInt32)
    (cycle : Cycle σ) :
    ((Relay.removeDelivered client (id :: ids)).run cycle).result
        = ((Relay.removeDelivered client ids).run
          { cycle with store := ((RelayStore.deleteMessage id).run cycle.store).state }).result ∧
      ((Relay.removeDelivered client (id :: ids)).run cycle).state
        = ((Relay.removeDelivered client ids).run
          { cycle with store := ((RelayStore.deleteMessage id).run cycle.store).state }).state := by
  simp only [Relay.removeDelivered, Action.run_bind, Action.run_attempt, Cycle.storing,
    Action.run_on]
  cases ((RelayStore.deleteMessage id).run cycle.store).result with
  | error e => exact ⟨rfl, rfl⟩
  | ok found => cases found <;> exact ⟨rfl, rfl⟩

/-- After a reply that goes out as a whole, its messages are removed. -/
theorem state_finish_of_sent {relay : Relay} {peer : Peer} {prepared : Prepared} {cycle : Cycle σ}
    {n : Nat}
    (h : (Outbox.send peer relay.packetSize prepared.reply.response cycle.outbox).1 = .ok n) :
    ((relay.finish peer prepared).run cycle).state
      = ((Relay.removeDelivered prepared.sender prepared.reply.delivered).run
          ((relay.answer peer prepared.code prepared.sender prepared.reply).run cycle).state).state := by
  unfold Relay.finish
  rw [(Action.run_bind_of_ok (answer_of_sent prepared.code prepared.sender h)).2]
  simp only [Action.run_bind]
  split <;> rfl

/-- After a reply that does not go out as a whole, the store stays as it is. -/
theorem store_finish_of_not_sent {relay : Relay} {peer : Peer} {prepared : Prepared}
    {cycle : Cycle σ} {e : SendError}
    (h : (Outbox.send peer relay.packetSize prepared.reply.response cycle.outbox).1 = .error e) :
    ((relay.finish peer prepared).run cycle).state.store = cycle.store := by
  unfold Relay.finish
  cases ha : ((relay.answer peer prepared.code prepared.sender prepared.reply).run cycle).result with
  | error e' =>
    rw [(Action.run_bind_of_error ha).2]
    exact store_answer relay peer _ _ _ cycle
  | ok answered =>
    have none_ := delivered_of_not_sent h ha
    rw [(Action.run_bind_of_ok ha).2]
    obtain ⟨sent, delivered⟩ := answered
    simp only at none_
    subst none_
    exact store_answer relay peer _ _ _ cycle

/-- After a reply that delivers no messages there is nothing to remove. -/
theorem store_finish_of_nothing {relay : Relay} {peer : Peer} {prepared : Prepared}
    {cycle : Cycle σ} (nothing : prepared.reply.delivered = []) :
    ((relay.finish peer prepared).run cycle).state.store = cycle.store := by
  cases sent : (Outbox.send peer relay.packetSize prepared.reply.response cycle.outbox).1 with
  | error e => exact store_finish_of_not_sent sent
  | ok n =>
    rw [state_finish_of_sent sent, nothing]
    exact store_answer relay peer prepared.code prepared.sender prepared.reply cycle

/-! ## Connections under watch -/

/-- A connection to serve. -/
structure Visit where
  circumstances : Circumstances
  incoming : Incoming
  peer : Peer

/-- What is known of a connection that was served. -/
structure Attendance where
  /-- The client that the header of the request names, if there was a header. -/
  caller? : Option ClientId
  /-- The messages that were taken in. -/
  accepted : List StoredMessage
  /-- The numbers of the messages whose removal failed. -/
  unremoved : List UInt32
  /-- The reply that was ready to be sent, if there was one. -/
  reply? : Option Reply
  /-- Whether that reply went out as a whole (`sent_attend_iff`). -/
  sent : Bool

/-- The message as a reply lists it. -/
def entryOf (message : StoredMessage) : MessageEntry where
  sender := message.sender
  id := message.id
  type := message.type
  content := message.content

/-- The messages that a connection handed over: those that its reply lists, once it is sent. -/
def Attendance.handedOver (attendance : Attendance) : List MessageEntry :=
  match attendance.reply?, attendance.sent with
  | some { response := .unreadMessages entries, .. }, true => entries
  | _, _ => []

/-- A connection before anything was read from it, over a chronicle. -/
def Visit.start (packetSize : Nat) (visit : Visit) (store : σ) : Cycle (Chronicle σ) where
  store := .begin store
  intake := Intake.start packetSize visit.incoming
  outbox := .empty

/-- The relay with the standard router and packets of a size. -/
def Relay.ofPacketSize (packetSize : Nat) : Relay where
  router := .standard
  packetSize := packetSize

/-- Serves a connection and puts on record what is known of it. -/
def attend (packetSize : Nat) (visit : Visit) (store : σ) : Attendance × σ :=
  let relay := Relay.ofPacketSize packetSize
  let start := visit.start packetSize store
  let ready := (relay.prepare visit.circumstances).run start
  let out := (relay.dispatch visit.circumstances visit.peer).run start
  let attendance : Attendance := {
    caller? := Relay.callerOf start.intake
    accepted := out.state.store.accepted
    unremoved := out.state.store.unremoved
    reply? := ready.result.toOption.map (·.reply)
    sent :=
      match ready.result with
      | .ok prepared =>
        (Outbox.send visit.peer relay.packetSize prepared.reply.response ready.state.outbox).1.isOk
      | .error _ => false }
  (attendance, out.state.store.store)

/-- The record of a connection that gets a reply ready shows this reply and whether it went out. -/
theorem attend_of_ready {packetSize : Nat} {visit : Visit} {store : σ} {prepared : Prepared}
    (ready : (((Relay.ofPacketSize packetSize).prepare visit.circumstances).run
      (visit.start packetSize store)).result = .ok prepared) :
    (attend packetSize visit store).1.reply? = some prepared.reply ∧
      (attend packetSize visit store).1.sent
        = (Outbox.send visit.peer (Relay.ofPacketSize packetSize).packetSize
            prepared.reply.response
            (((Relay.ofPacketSize packetSize).prepare visit.circumstances).run
              (visit.start packetSize store)).state.outbox).1.isOk := by
  constructor
  · simp only [attend, ready]
    rfl
  · simp only [attend, ready]

/-- The record of a connection that ends before a reply is ready shows none. -/
theorem attend_of_unready {packetSize : Nat} {visit : Visit} {store : σ} {cause : DispatchError}
    (unready : (((Relay.ofPacketSize packetSize).prepare visit.circumstances).run
      (visit.start packetSize store)).result = .error cause) :
    (attend packetSize visit store).1.reply? = none ∧
      (attend packetSize visit store).1.sent = false := by
  constructor
  · simp only [attend, unready]
    rfl
  · simp only [attend, unready]

/-! ## Watching changes nothing -/

/-- The operations of a store run alike with and without a chronicle. -/
theorem storesAlike_chronicle (client : ClientId) :
    StoresAlike (fun (chronicle : Chronicle σ) store => chronicle.store = store) client where
  hasId _ := Chronicle.alike_passing _
  hasName _ := Chronicle.alike_passing _
  insertClient _ _ _ _ := Chronicle.alike_passing _
  clients := Chronicle.alike_passing _
  publicKey _ := Chronicle.alike_passing _
  idByName _ := Chronicle.alike_passing _
  updateLastSeen _ _ := Chronicle.alike_passing _
  insertMessage _ _ _ := Chronicle.alike_noting _ (Chronicle.store_noteTaken _ _ _ _) _
  unread _ := Chronicle.alike_passing _

/-- A connection is served over a chronicle as over its store. -/
theorem dispatchOn_chronicle (relay : Relay) (circumstances : Circumstances) (peer : Peer)
    (incoming : Incoming) (store : σ) :
    (relay.dispatchOn circumstances peer incoming (Chronicle.begin store)).Alike
      (Cycle.Alike fun chronicle store => chronicle.store = store)
      (relay.dispatchOn circumstances peer incoming store) := by
  apply Relay.alike_dispatch relay circumstances peer storesAlike_chronicle
  · intro id
    exact Chronicle.alike_noting _ (Chronicle.store_noteRemoval id) _
  · exact ⟨rfl, rfl, rfl⟩

/-! ## The reply -/

/-- The reply that hands over messages. -/
def Reply.handingOver (messages : List StoredMessage) : Reply where
  response := .unreadMessages (messages.map entryOf)
  delivered := messages.map (·.id)

/-- A reply that hands over no messages. -/
def Reply.Quiet (reply : Reply) : Prop :=
  reply.delivered = [] ∧ ∀ entries, reply.response ≠ .unreadMessages entries

/-- A connection whose reply did not go out handed over nothing. -/
theorem handedOver_of_not_sent {attendance : Attendance} (h : attendance.sent = false) :
    attendance.handedOver = [] := by
  unfold Attendance.handedOver
  rw [h]
  cases attendance.reply? with
  | none => rfl
  | some reply =>
    obtain ⟨response, delivered⟩ := reply
    cases response <;> rfl

/-- A connection with a quiet reply handed over nothing. -/
theorem handedOver_of_quiet {attendance : Attendance} {reply : Reply}
    (h : attendance.reply? = some reply) (quiet : reply.Quiet) : attendance.handedOver = [] := by
  obtain ⟨response, delivered⟩ := reply
  unfold Attendance.handedOver
  rw [h]
  cases response with
  | unreadMessages entries => exact absurd rfl (quiet.2 entries)
  | _ => rfl

namespace Handler

/-- The reply to a registration is quiet. -/
theorem quiet_of_registerClient {occasion : Occasion} {name : String} {key : Bytes} {store : σ}
    {reply : Reply} (h : ((registerClient occasion name key).run store).result = .ok reply) :
    reply.Quiet := by
  obtain ⟨taken, -, h, -⟩ := Action.exists_of_run_bind_ok h
  cases taken with
  | true => cases h
  | false =>
    obtain ⟨id, -, h, -⟩ := Action.exists_of_run_bind_ok h
    obtain ⟨inserted, -, h, -⟩ := Action.exists_of_run_bind_ok h
    cases inserted with
    | false => cases h
    | true =>
      cases h
      exact ⟨rfl, fun _ => by simp⟩

/-- The reply to a lookup is quiet. -/
theorem quiet_of_lookUp {name : String} {store : σ} {reply : Reply}
    (h : ((lookUp name).run store).result = .ok reply) : reply.Quiet := by
  obtain ⟨id?, -, h, -⟩ := Action.exists_of_run_bind_ok h
  obtain ⟨key?, -, h, -⟩ := Action.exists_of_run_bind_ok h
  cases id? with
  | none => cases h
  | some id =>
    cases key? with
    | none => cases h
    | some key =>
      cases h
      exact ⟨rfl, fun _ => by simp⟩

/-- The receipt of a message is quiet. -/
theorem quiet_of_leaveMessage {occasion : Occasion} {target : ClientId} {number : UInt8}
    {content : Bytes} {store : σ} {reply : Reply}
    (h : ((leaveMessage occasion target number content).run store).result = .ok reply) :
    reply.Quiet := by
  unfold leaveMessage at h
  cases ht : MessageType.ofNumber? number with
  | none =>
    rw [ht] at h
    cases h
  | some type =>
    rw [ht] at h
    obtain ⟨known, -, h, -⟩ := Action.exists_of_run_bind_ok h
    cases known with
    | false => cases h
    | true =>
      obtain ⟨id, -, h, -⟩ := Action.exists_of_run_bind_ok h
      cases h
      exact ⟨rfl, fun _ => by simp⟩

/-- A handler that hands over messages has only asked for those of the sender. -/
theorem reply_of_handle {handler : Handler} {occasion : Occasion} {request : Request} {store : σ}
    {reply : Reply} (h : ((handler.handle occasion request).run store).result = .ok reply) :
    reply.Quiet ∨ ∃ messages,
      ((RelayStore.unread occasion.sender).run store).result = .ok messages ∧
      ((handler.handle occasion request).run store).state
        = ((RelayStore.unread occasion.sender).run store).state ∧
      reply = .handingOver messages := by
  unfold handle at h ⊢
  split at h
  · exact .inl (quiet_of_registerClient h)
  · obtain ⟨records, -, h, -⟩ := Action.exists_of_run_bind_ok h
    cases h
    exact .inl ⟨rfl, fun _ => by simp⟩
  · exact .inl (quiet_of_lookUp h)
  · exact .inl (quiet_of_leaveMessage h)
  · obtain ⟨messages, hm, h, hs⟩ := Action.exists_of_run_bind_ok h
    refine .inr ⟨messages, (Action.result_mapError_eq_ok_iff _ _ _ _).1 hm, hs, ?_⟩
    cases h
    rfl
  · cases h

end Handler

/-! ## Preparing -/

variable [MailboxStore σ]

/-- The operations of a store on which a chronicle is kept only add to its account. -/
theorem storesAlike_growing (first : Chronicle.Account) (client : ClientId) :
    StoresAlike (fun (c c' : Chronicle σ) => c = c' ∧ first.Grows (some client) c.account)
      client := by
  have passing : ∀ {α : Type} {action : Action σ StoreError α},
      (∀ s, MailboxStore.mailbox (action.run s).state = MailboxStore.mailbox s) →
      Action.Alike (fun (c c' : Chronicle σ) => c = c' ∧ first.Grows (some client) c.account)
        (Chronicle.passing action) (Chronicle.passing action) := by
    intro α action h
    apply Action.alike_of_invariant
    intro c grown
    rw [Chronicle.account_passing h]
    exact grown
  exact {
    hasId := fun id => passing (MailboxStore.mailbox_hasId id)
    hasName := fun name => passing (MailboxStore.mailbox_hasName name)
    insertClient := fun id name key now => passing (MailboxStore.mailbox_insertClient id name key now)
    clients := passing MailboxStore.mailbox_clients
    publicKey := fun name => passing (MailboxStore.mailbox_publicKey name)
    idByName := fun name => passing (MailboxStore.mailbox_idByName name)
    updateLastSeen := fun id now => passing (MailboxStore.mailbox_updateLastSeen id now)
    insertMessage := by
      intro target type content
      apply Action.alike_of_invariant
      intro c grown
      exact grown.trans (Chronicle.grows_insertMessage target client type content c)
    unread := fun target => passing (MailboxStore.mailbox_unread target) }

/-- Until the reply is ready the account only grows, by messages from the caller. -/
theorem grows_prepare (relay : Relay) (circumstances : Circumstances)
    (cycle : Cycle (Chronicle σ)) :
    cycle.store.account.Grows (Relay.callerOf cycle.intake)
      ((relay.prepare circumstances).run cycle).state.store.account := by
  have same : Cycle.Alike (fun (c c' : Chronicle σ) =>
      c = c' ∧ cycle.store.account.Grows (Relay.callerOf cycle.intake) c.account) cycle cycle :=
    ⟨⟨rfl, .refl _ _⟩, rfl, rfl⟩
  have out := Relay.alike_prepare relay circumstances same (by
    intro client named
    rw [named]
    exact storesAlike_growing _ client)
  exact out.states.store.2

/-- Checking the sender changes nothing of the account. -/
theorem account_checkSender (code : RequestCode) (sender : ClientId)
    (cycle : Cycle (Chronicle σ)) :
    ((Relay.checkSender code sender).run cycle).state.store.account = cycle.store.account := by
  have same : Cycle.Alike (fun (c c' : Chronicle σ) =>
      c = c' ∧ c.account = cycle.store.account) cycle cycle := ⟨⟨rfl, rfl⟩, rfl, rfl⟩
  have out := Relay.alike_checkSender code sender (Action.alike_of_invariant (by
    intro c hc
    exact (Chronicle.account_passing (MailboxStore.mailbox_hasId sender) c).trans hc)) _ _ same
  exact out.states.store.2

/-- Noting that the sender was seen changes nothing of the account. -/
theorem account_noteSender (sender : ClientId) (now : Timestamp) (cycle : Cycle (Chronicle σ)) :
    ((Relay.noteSender sender now).run cycle).state.store.account = cycle.store.account := by
  have same : Cycle.Alike (fun (c c' : Chronicle σ) =>
      c = c' ∧ c.account = cycle.store.account) cycle cycle := ⟨⟨rfl, rfl⟩, rfl, rfl⟩
  have out := Relay.alike_noteSender sender now (Action.alike_of_invariant (by
    intro c hc
    exact (Chronicle.account_passing (MailboxStore.mailbox_updateLastSeen sender now) c).trans
      hc)) _ _ same
  exact out.states.store.2

/-- What is served is a quiet reply, or the one that hands over all that waits for the sender. -/
theorem reply_of_serve {code : RequestCode} {handler : Handler} {occasion : Occasion}
    {cycle : Cycle (Chronicle σ)} {reply : Reply}
    (h : ((Relay.serve code handler occasion).run cycle).result = .ok reply) :
    reply.Quiet ∨
      reply = .handingOver (cycle.store.account.mailbox.unread occasion.sender) ∧
      ((Relay.serve code handler occasion).run cycle).state.store.account
        = cycle.store.account := by
  obtain ⟨request, -, h, hs⟩ := Action.exists_of_run_bind_ok h
  have handled : ((handler.handle occasion request).run cycle.store).result = .ok reply := h
  obtain quiet | ⟨messages, asked, left_, rfl⟩ := Handler.reply_of_handle handled
  · exact .inl quiet
  have unread : messages = cycle.store.account.mailbox.unread occasion.sender := by
    have result := MailboxStore.unread_result occasion.sender cycle.store.store
    have same := asked.symm.trans result
    exact Except.ok.inj same
  refine .inr ⟨by rw [unread], ?_⟩
  have kept := Chronicle.account_passing (MailboxStore.mailbox_unread occasion.sender) cycle.store
  exact (congrArg (fun c : Cycle (Chronicle σ) => c.store.account) hs).trans
    ((congrArg Chronicle.account left_).trans kept)

/-- A reply that is ready either hands over no messages or hands over all that wait for the caller,
and has then left the account. -/
theorem reply_of_prepare {relay : Relay} {circumstances : Circumstances}
    {cycle : Cycle (Chronicle σ)} {prepared : Prepared}
    (h : ((relay.prepare circumstances).run cycle).result = .ok prepared) :
    Relay.callerOf cycle.intake = some prepared.sender ∧
      (prepared.reply.Quiet ∨
        prepared.reply = .handingOver (cycle.store.account.mailbox.unread prepared.sender) ∧
        ((relay.prepare circumstances).run cycle).state.store.account = cycle.store.account) := by
  unfold Relay.prepare at h ⊢
  obtain ⟨header, hh, h, hs⟩ := Action.exists_of_run_bind_ok h
  have named := Relay.callerOf_eq_some ((Action.result_mapError_eq_ok_iff _ _ _ _).1 hh)
  rw [named, hs]
  cases hc : RequestCode.ofNumber? header.code with
  | none =>
    rw [hc] at h
    cases h
  | some code =>
    simp only [hc] at h ⊢
    cases hr : relay.router.find? code with
    | none =>
      rw [hr] at h
      cases h
    | some handler =>
      simp only [hr] at h ⊢
      -- neither the check nor the note of the sender touches the account
      obtain ⟨_, -, h, hs⟩ := Action.exists_of_run_bind_ok h
      rw [hs]
      obtain ⟨_, -, h, hs⟩ := Action.exists_of_run_bind_ok h
      rw [hs]
      obtain ⟨served, hserved, h, hs⟩ := Action.exists_of_run_bind_ok h
      rw [hs]
      cases served with
      | error e =>
        obtain ⟨_, -, h, -⟩ := Action.exists_of_run_bind_ok h
        cases h
        exact ⟨rfl, .inl ⟨rfl, fun _ => by simp⟩⟩
      | ok reply =>
        cases h
        refine ⟨rfl, ?_⟩
        obtain quiet | ⟨hands, kept⟩ := reply_of_serve (Except.ok.inj hserved)
        · exact .inl quiet
        · right
          simp only [account_noteSender, account_checkSender, Action.run_mapError,
            Cycle.state_readingHeader] at hands kept ⊢
          exact ⟨hands, kept⟩

/-! ## Finishing -/

/-- Removing always comes to its end. The numbers it is given are then those of the messages that
are gone and of those whose removal failed. -/
theorem account_removeDelivered (client : ClientId) (ids : List UInt32)
    (cycle : Cycle (Chronicle σ)) :
    ((Relay.removeDelivered client ids).run cycle).result = .ok () ∧
      ((Relay.removeDelivered client ids).run cycle).state.store.account.accepted
        = cycle.store.account.accepted ∧
      ∃ gone failed, gone.Sublist ids ∧ (gone ++ failed).Perm ids ∧
        ((Relay.removeDelivered client ids).run cycle).state.store.account.unremoved
          = cycle.store.account.unremoved ++ failed ∧
        ((Relay.removeDelivered client ids).run cycle).state.store.account.mailbox
          = gone.foldl (fun rest id => rest.forget id) cycle.store.account.mailbox := by
  induction ids generalizing cycle with
  | nil => exact ⟨rfl, rfl, [], [], .slnil, .nil, (List.append_nil _).symm, rfl⟩
  | cons id ids ih =>
    obtain ⟨result, state⟩ := run_removeDelivered_cons client id ids cycle
    rw [result, state]
    obtain ⟨done, accepted, gone, failed, among, all, unremoved, removed⟩ :=
      ih { cycle with store := ((RelayStore.deleteMessage id).run cycle.store).state }
    refine ⟨done, ?_⟩
    rw [accepted, unremoved, removed]
    obtain forgotten | failed_ := Chronicle.account_deleteMessage id cycle.store
    · simp only [forgotten]
      exact ⟨trivial, id :: gone, failed, among.cons_cons id, all.cons id, rfl, rfl⟩
    · simp only [failed_]
      refine ⟨trivial, gone, id :: failed, among.cons id, ?_, by simp, rfl⟩
      exact List.perm_middle.trans (all.cons id)

/-! ## One connection -/

/-- What a connection that hands over nothing does: it takes in messages from its caller. -/
structure Attendance.TakesIn (attendance : Attendance) (mailbox mailbox' : Mailbox) : Prop where
  handedOver : attendance.handedOver = []
  signed : ∀ message ∈ attendance.accepted, attendance.caller? = some message.sender
  grows : mailbox.Grows attendance.accepted mailbox'

/-- What a connection that hands over messages does: they are all that wait for its caller, and are
removed once its reply is sent, but for those whose removal fails. -/
structure Attendance.HandsOver (attendance : Attendance) (client : ClientId)
    (mailbox mailbox' : Mailbox) : Prop where
  caller : attendance.caller? = some client
  sent : attendance.sent = true
  encoded : ∃ message,
    (Response.unreadMessages ((mailbox.unread client).map entryOf)).encode = .ok message
  accepted : attendance.accepted = []
  handedOver : attendance.handedOver = (mailbox.unread client).map entryOf
  split : ∃ gone, gone.Sublist ((mailbox.unread client).map (·.id)) ∧
    (gone ++ attendance.unremoved).Perm ((mailbox.unread client).map (·.id)) ∧
    mailbox' = gone.foldl (fun rest id => rest.forget id) mailbox

/-- Where no removal fails, all that was handed over is removed. -/
theorem Attendance.HandsOver.removed {attendance : Attendance} {client : ClientId}
    {mailbox mailbox' : Mailbox} (h : attendance.HandsOver client mailbox mailbox')
    (removals : attendance.unremoved = []) :
    mailbox' = ((mailbox.unread client).map (·.id)).foldl (fun rest id => rest.forget id) mailbox := by
  obtain ⟨gone, among, all, left_⟩ := h.split
  rw [removals, List.append_nil] at all
  rw [left_, among.eq_of_length all.length_eq]

/-- A connection that hands over nothing and leaves the account as it was when the reply was ready
has only taken in messages. -/
theorem takesIn_of_account {packetSize : Nat} {visit : Visit} {store : σ}
    (nothing : (attend packetSize visit store).1.handedOver = [])
    (kept : (((Relay.ofPacketSize packetSize).dispatch visit.circumstances visit.peer).run
        (visit.start packetSize store)).state.store
      = (((Relay.ofPacketSize packetSize).prepare visit.circumstances).run
        (visit.start packetSize store)).state.store) :
    (attend packetSize visit store).1.TakesIn (MailboxStore.mailbox store)
      (MailboxStore.mailbox (attend packetSize visit store).2) := by
  have grown := grows_prepare (Relay.ofPacketSize packetSize) visit.circumstances
    (visit.start packetSize store)
  rw [← kept] at grown
  obtain ⟨-, new, accepted, signed, grows⟩ := grown
  have all : (attend packetSize visit store).1.accepted = new := accepted
  exact {
    handedOver := nothing
    signed := by
      rw [all]
      exact signed
    grows := by
      rw [all]
      exact grows }

omit [MailboxStore σ] in
/-- What a connection does from the time when its reply is ready. -/
theorem state_dispatch_of_ready {packetSize : Nat} {visit : Visit} {store : σ} {prepared : Prepared}
    (ready : (((Relay.ofPacketSize packetSize).prepare visit.circumstances).run
      (visit.start packetSize store)).result = .ok prepared) :
    (((Relay.ofPacketSize packetSize).dispatch visit.circumstances visit.peer).run
        (visit.start packetSize store)).state
      = (((Relay.ofPacketSize packetSize).finish visit.peer prepared).run
        (((Relay.ofPacketSize packetSize).prepare visit.circumstances).run
          (visit.start packetSize store)).state).state :=
  (Action.run_bind_of_ok ready).2

/-- A connection whose reply hands over messages and goes out. -/
theorem handsOver_of_sent {packetSize : Nat} {visit : Visit} {store : σ} {prepared : Prepared}
    {n : Nat}
    (ready : (((Relay.ofPacketSize packetSize).prepare visit.circumstances).run
      (visit.start packetSize store)).result = .ok prepared)
    (named : Relay.callerOf (visit.start packetSize store).intake = some prepared.sender)
    (hands : prepared.reply = .handingOver ((MailboxStore.mailbox store).unread prepared.sender))
    (kept : (((Relay.ofPacketSize packetSize).prepare visit.circumstances).run
        (visit.start packetSize store)).state.store.account
      = (visit.start packetSize store).store.account)
    (send : (Outbox.send visit.peer (Relay.ofPacketSize packetSize).packetSize
      prepared.reply.response
      (((Relay.ofPacketSize packetSize).prepare visit.circumstances).run
        (visit.start packetSize store)).state.outbox).1 = .ok n) :
    (attend packetSize visit store).1.HandsOver prepared.sender (MailboxStore.mailbox store)
      (MailboxStore.mailbox (attend packetSize visit store).2) := by
  obtain ⟨reply, sent⟩ := attend_of_ready ready
  rw [send] at sent
  have finished := state_finish_of_sent send
  rw [← state_dispatch_of_ready ready] at finished
  have answered := store_answer (Relay.ofPacketSize packetSize) visit.peer prepared.code
    prepared.sender prepared.reply (((Relay.ofPacketSize packetSize).prepare
      visit.circumstances).run (visit.start packetSize store)).state
  obtain ⟨-, accepted, gone, failed, among, all, unremoved, removed⟩ :=
    account_removeDelivered prepared.sender prepared.reply.delivered
      (((Relay.ofPacketSize packetSize).answer visit.peer prepared.code prepared.sender
        prepared.reply).run (((Relay.ofPacketSize packetSize).prepare
          visit.circumstances).run (visit.start packetSize store)).state).state
  rw [answered, kept] at accepted unremoved removed
  rw [← finished] at accepted unremoved removed
  have delivered : prepared.reply.delivered
      = ((MailboxStore.mailbox store).unread prepared.sender).map (·.id) := by
    rw [hands]
    rfl
  rw [delivered] at among all
  have failures : (attend packetSize visit store).1.unremoved = failed := unremoved
  exact {
    caller := named
    sent := sent
    encoded := by
      have encoded := Outbox.exists_encode_of_send send
      rw [hands] at encoded
      exact encoded
    accepted := accepted
    handedOver := by
      simp only [Attendance.handedOver, reply, sent, hands]
      rfl
    split := ⟨gone, among, failures ▸ all, removed⟩ }

/-- A connection either hands over nothing or hands over all that waits for its caller. -/
theorem attend_effect (packetSize : Nat) (visit : Visit) (store : σ) :
    (attend packetSize visit store).1.TakesIn (MailboxStore.mailbox store)
        (MailboxStore.mailbox (attend packetSize visit store).2) ∨
      ∃ client, (attend packetSize visit store).1.HandsOver client (MailboxStore.mailbox store)
        (MailboxStore.mailbox (attend packetSize visit store).2) := by
  cases hready : (((Relay.ofPacketSize packetSize).prepare visit.circumstances).run
    (visit.start packetSize store)).result with
  | error e =>
    left
    apply takesIn_of_account
    · exact handedOver_of_not_sent (attend_of_unready hready).2
    · exact congrArg Cycle.store (Action.run_bind_of_error hready).2
  | ok prepared =>
    have dispatched := state_dispatch_of_ready hready
    cases hsend : (Outbox.send visit.peer (Relay.ofPacketSize packetSize).packetSize
      prepared.reply.response
      (((Relay.ofPacketSize packetSize).prepare visit.circumstances).run
        (visit.start packetSize store)).state.outbox).1 with
    | error e =>
      left
      have unsent := (attend_of_ready hready).2
      rw [hsend] at unsent
      apply takesIn_of_account
      · exact handedOver_of_not_sent unsent
      · rw [dispatched]
        exact store_finish_of_not_sent hsend
    | ok n =>
      obtain ⟨named, quiet | ⟨hands, kept⟩⟩ := reply_of_prepare hready
      · left
        apply takesIn_of_account
        · exact handedOver_of_quiet (attend_of_ready hready).1 quiet
        · rw [dispatched]
          exact store_finish_of_nothing quiet.1
      · exact .inr ⟨prepared.sender, handsOver_of_sent hready named hands kept hsend⟩

end MessageRelay.Service
