import MessageRelay.Proofs.Service.Delivery
import MessageRelay.Proofs.Service.Registration
import MessageRelay.Proofs.Store.MailboxCoherence

/-!
# Collecting messages

A client that asks for its messages is handed all of them in one reply, and they are removed once it
is out, but for those whose removal fails. There is one thing that this can fail for: the messages
take more bytes together than the size field of a reply can state. Then the client is told that its
request failed and every message stays; and since nothing but a reply takes messages out, it is told
so for good (`collects_unless_overfull`). A single message is enough for that: whatever its size
field can state is taken in (`attend_leaving`), but its entry in a reply is longer than what it came
in (`exists_uncollectable`).
-/

set_option autoImplicit false

namespace MessageRelay

open Protocol

namespace Store

/-! ## What waits for a client -/

namespace Mailbox

/-- The bytes of the reply in which all that waits for a client is handed over. -/
def replySize (client : ClientId) (mailbox : Mailbox) : Nat :=
  ((mailbox.unread client).map fun message =>
    messageEntryPreludeSize + message.content.length).sum

/-- More waits for a client than the size field of a reply can state. -/
def Overfull (client : ClientId) (mailbox : Mailbox) : Prop :=
  4294967296 ≤ mailbox.replySize client

variable {mailbox mailbox' : Mailbox}

/-- What is taken in for a client makes the reply to it longer. -/
theorem Grows.replySize {new : List StoredMessage} (grows : Grows new mailbox mailbox')
    (client : ClientId) :
    mailbox'.replySize client
      = mailbox.replySize client + ((new.filter fun message => message.target = client).map
          fun message => messageEntryPreludeSize + message.content.length).sum := by
  rw [Mailbox.replySize, Mailbox.replySize, unread, unread, grows.messages, List.filter_append,
    List.map_append, List.sum_append]

/-- A mailbox that only grows stays overfull. -/
theorem Overfull.grows {client : ClientId} {new : List StoredMessage}
    (overfull : mailbox.Overfull client) (grows : Grows new mailbox mailbox') :
    mailbox'.Overfull client := by
  rw [Overfull, grows.replySize]
  exact Nat.le_add_right_of_le overfull

/-- A client for whom too much waits has messages that wait. -/
theorem Overfull.unread_ne_nil {client : ClientId} (overfull : mailbox.Overfull client) :
    mailbox.unread client ≠ [] := by
  intro none
  rw [Overfull, replySize, none] at overfull
  cases overfull

end Mailbox

/-! ## Removals that do not fail -/

namespace Backend

/-- No removal from the store fails: it is in memory, or its log has room for every record. -/
def Unfailing : Backend → Prop
  | .memory _ => True
  | .files store => store.folder.rooms = []

instance : DecidablePred Unfailing
  | .memory _ => .isTrue trivial
  | .files store => inferInstanceAs (Decidable (store.folder.rooms = []))

variable {store : Backend}

/-- Noting that a client was seen does not make removals fail. -/
theorem Unfailing.updateLastSeen (unfailing : store.Unfailing) (id : ClientId)
    (now : Timestamp) : ((RelayStore.updateLastSeen id now).run store).state.Unfailing := by
  cases store with
  | memory store => trivial
  | files store =>
    have effect := Durable.effect_updateLastSeen now id store
    show Unfailing (files ((Durable.updateLastSeen id now).run store).state)
    generalize ((Durable.updateLastSeen id now).run store).state = left at effect ⊢
    generalize Except.map _ _ = answer at effect
    cases effect <;> exact unfailing

/-- A removal that cannot fail answers whether there was such a message, and the next one cannot
fail either. -/
theorem Unfailing.deleteMessage (unfailing : store.Unfailing) (id : UInt32) (now : Timestamp) :
    (∃ found, ((RelayStore.deleteMessage id).run store).result = .ok found) ∧
      ((RelayStore.deleteMessage id).run store).state.Unfailing := by
  cases store with
  | memory store => exact ⟨⟨_, rfl⟩, trivial⟩
  | files store =>
    have rooms : store.folder.rooms = [] := unfailing
    have effect := Durable.effect_deleteMessage now id store
    show (∃ found, ((Durable.deleteMessage id).run store).result = .ok found) ∧
      Unfailing (files ((Durable.deleteMessage id).run store).state)
    generalize ((Durable.deleteMessage id).run store).state = left at effect ⊢
    generalize ((Durable.deleteMessage id).run store).result = result at effect ⊢
    cases result with
    | ok found =>
      refine ⟨⟨found, rfl⟩, ?_⟩
      cases effect with
      | absent => exact unfailing
      | removed => exact congrArg List.tail rooms
    | error e =>
      cases effect with
      | unremoved _ _ _ fault =>
        cases fault with
        | tooLarge e refused =>
          obtain ⟨bytes, encoded⟩ := Durable.exists_encode_deleted id
          cases encoded.symm.trans refused
        | noRoom bytes room rest encoded planned short => cases rooms.symm.trans planned

end Backend

end Store

namespace Service

open Connection
open Store (Backend Chronicle DataFolder Durable Mailbox MailboxStore Registration RelayStore
  StoreCall StoredMessage Volatile)

variable {packetSize : Nat} {visit : Visit} {client : ClientId} {store : Backend}
  {roll : List Registration}

/-- The reply that hands over all that waits for a client can be written exactly if this is not too
much. -/
theorem exists_encode_handingOver_iff (client : ClientId) (mailbox : Mailbox) :
    (∃ message,
      (Response.unreadMessages ((mailbox.unread client).map entryOf)).encode = .ok message)
      ↔ ¬ mailbox.Overfull client := by
  rw [Response.exists_encode_unreadMessages_iff, List.map_map, Mailbox.Overfull, Nat.not_le]
  rfl

/-! ## Handing over -/

/-- What was handed over leaves the queue of its client unless its removal failed, and no other
queue is touched. -/
theorem Attendance.HandsOver.unread {attendance : Attendance} {mailbox mailbox' : Mailbox}
    (h : attendance.HandsOver client mailbox mailbox') (kept : mailbox.WellKept) :
    mailbox'.unread client
        = (mailbox.unread client).filter (fun message => message.id ∈ attendance.unremoved) ∧
      ∀ other, other ≠ client → mailbox'.unread other = mailbox.unread other := by
  obtain ⟨gone, among, all, rfl⟩ := h.split
  have distinct : (gone ++ attendance.unremoved).Nodup := by
    rw [all.nodup_iff, List.Nodup, List.pairwise_map]
    exact (kept.ordered.filter _).imp fun below => UInt32.ne_of_lt below
  refine ⟨?_, ?_⟩
  · rw [kept.unread_forgetAll]
    apply List.filter_congr
    intro message waits
    have listed : message.id ∈ gone ++ attendance.unremoved :=
      all.mem_iff.2 (List.mem_map_of_mem waits)
    rw [decide_eq_decide]
    constructor
    · intro left_
      exact (List.mem_append.1 listed).resolve_left left_
    · intro failed removed
      exact (List.nodup_append.1 distinct).2.2 _ removed _ failed rfl
  · intro other different
    rw [kept.unread_forgetAll, List.filter_eq_self]
    intro message waits
    obtain ⟨waits, target⟩ := Mailbox.mem_unread_iff.1 waits
    refine decide_eq_true fun removed => different ?_
    rw [← target]
    exact (kept.id_mem_unread_iff waits client).1 (among.subset removed)

/-! ## The connection of a client that collects -/

/-- A client asks for its messages on a connection that takes every write. -/
structure Visit.Collecting (packetSize : Nat) (client : ClientId) (visit : Visit) : Prop where
  asked : visit.request? packetSize = some (client, .unreadMessages)
  steady : visit.peer.Steady

/-- One response goes out on a connection, to its end. -/
structure Visit.Receives (packetSize : Nat) (visit : Visit) (store : Backend)
    (response : Response) : Prop where
  result : (visit.outcome packetSize store).result = .ok response.code
  bytes : framed packetSize response = .ok (visit.outcome packetSize store).state.outbox.taken

/-- A reply that is ready goes out to the end where every write is taken. -/
theorem receives_of_ready {prepared : Prepared} (steady : visit.peer.Steady)
    (ready : (visit.ready packetSize store).result = .ok prepared) :
    visit.Receives packetSize store prepared.reply.outgoing := by
  have answered := Relay.dispatch_answered visit.peer rfl ready
  obtain ⟨code, finished⟩ : ∃ code,
      (((Relay.ofPacketSize packetSize).finish visit.peer prepared).run
        (visit.ready packetSize store).state).result = .ok code :=
    Relay.finish_of_steady steady (Relay.ofPacketSize packetSize) prepared
  have ended : (visit.outcome packetSize store).result = .ok code :=
    (Action.run_bind_of_ok ready).1.trans finished
  change Answered packetSize visit.peer prepared.reply.outgoing
    (visit.outcome packetSize store).result (visit.outcome packetSize store).state.outbox at answered
  rw [ended] at answered
  generalize outbox : (visit.outcome packetSize store).state.outbox = out at answered
  cases answered with
  | whole framing taken =>
    refine ⟨ended, ?_⟩
    rw [outbox, taken]
    exact framing

/-- The store after a connection is the one that dispatching it leaves. -/
theorem store_attend (packetSize : Nat) (visit : Visit) (store : Backend) :
    (attend packetSize visit store).2 = (visit.outcome packetSize store).state.store :=
  (dispatchOn_chronicle (Relay.ofPacketSize packetSize) visit.circumstances visit.peer
    visit.incoming store).states.store

/-- Collecting gives all that waits for the sender, tells how many messages these are, and leaves
the store as it is. -/
theorem Handler.run_collect (occasion : Occasion) (store : Backend) :
    (Handler.collect occasion).run store
      = ⟨.ok (.handingOver (store.mailbox.unread occasion.sender)), store,
          [.debug (s!"{(store.mailbox.unread occasion.sender).length} unread messages for "
            ++ s!"{occasion.sender.text}")]⟩ := by
  simp only [Handler.collect, Handler.storing, Action.run_bind, Action.run_mapError,
    Backend.run_unread]
  rfl

/-- The reply to a client that collects is ready with all that waits for it. Nothing has happened to
the messages then, and the sender is noted. -/
theorem ready_of_collecting (collecting : visit.Collecting packetSize client)
    (known : store.directory.hasId client = true) :
    let ready := ((Relay.ofPacketSize packetSize).prepare visit.circumstances).run
      (visit.start packetSize store)
    ∃ prepared, ready.result = .ok prepared ∧
      (visit.ready packetSize store).result = .ok prepared ∧ prepared.sender = client ∧
      prepared.reply = .handingOver (store.mailbox.unread client) ∧
      Relay.callerOf (visit.start packetSize store).intake = some client ∧
      ready.state.store.account = (visit.start packetSize store).store.account ∧
      ready.state.store.store
        = ((RelayStore.updateLastSeen client visit.circumstances.now).run store).state := by
  intro ready
  -- the reply over the store itself is the reply over the chronicle, which tells what was removed
  obtain ⟨given, left_⟩ := ready_of_request collecting.asked (.inr known)
  simp only [Request.code, Handler.handle, Handler.run_collect] at given left_
  have same : Cycle.Alike (fun (chronicle : Chronicle Backend) store => chronicle.store = store)
      (visit.start packetSize store) (visit.begin packetSize store) := ⟨rfl, rfl, rfl⟩
  have alike := Relay.alike_prepare (Relay.ofPacketSize packetSize) visit.circumstances same
    fun client _ => storesAlike_chronicle client
  have result := alike.result.trans given
  obtain ⟨named, quiet | ⟨hands, kept⟩⟩ := reply_of_prepare result
  · exact absurd rfl (quiet.2 _)
  · exact ⟨_, result, given, rfl, hands, named, kept, alike.states.store.trans left_⟩

/-- What a client that collects makes of the messages. -/
theorem attend_collecting (collecting : visit.Collecting packetSize client)
    (known : store.directory.hasId client = true) :
    (store.mailbox.Overfull client →
      (attend packetSize visit store).2.mailbox = store.mailbox) ∧
    (¬ store.mailbox.Overfull client →
      (attend packetSize visit store).1.HandsOver client store.mailbox
        (attend packetSize visit store).2.mailbox) := by
  obtain ⟨prepared, ready, -, rfl, hands, named, kept, -⟩ := ready_of_collecting collecting known
  have response : prepared.reply.response
      = .unreadMessages ((store.mailbox.unread prepared.sender).map entryOf) := by
    rw [hands]
    rfl
  constructor
  · intro overfull
    cases sent : (Outbox.send visit.peer (Relay.ofPacketSize packetSize).packetSize
      prepared.reply.response (((Relay.ofPacketSize packetSize).prepare visit.circumstances).run
        (visit.start packetSize store)).state.outbox).1 with
    | error e =>
      have finished := store_finish_of_not_sent sent
      rw [← state_dispatch_of_ready ready] at finished
      have account := congrArg Chronicle.account finished
      rw [kept] at account
      exact congrArg Chronicle.Account.mailbox account
    | ok n =>
      have encoded := Outbox.exists_encode_of_send sent
      rw [response] at encoded
      exact absurd overfull ((exists_encode_handingOver_iff _ _).1 encoded)
  · intro fits
    obtain ⟨message, encoded⟩ := (exists_encode_handingOver_iff _ _).2 fits
    rw [← response] at encoded
    obtain ⟨n, sent⟩ := Outbox.send_of_steady collecting.steady
      (Relay.ofPacketSize packetSize).packetSize encoded
      (((Relay.ofPacketSize packetSize).prepare visit.circumstances).run
        (visit.start packetSize store)).state.outbox
    exact handsOver_of_sent ready named hands kept sent

/-! ## Removing what was handed over -/

/-- Where no removal fails, none is noted as failed. -/
theorem unremoved_removeDelivered (client : ClientId) (now : Timestamp) (ids : List UInt32)
    {cycle : Cycle (Chronicle Backend)} (unfailing : cycle.store.store.Unfailing) :
    ((Relay.removeDelivered client ids).run cycle).state.store.unremoved = cycle.store.unremoved := by
  induction ids generalizing cycle with
  | nil => rfl
  | cons id ids ih =>
    obtain ⟨⟨found, done⟩, stays⟩ := unfailing.deleteMessage id now
    have removed : ((RelayStore.deleteMessage id).run cycle.store).state
        = { cycle.store with
            store := ((RelayStore.deleteMessage id).run cycle.store.store).state } := by
      show ((Chronicle.noting _ _).run _).state = _
      rw [Chronicle.run_noting, done]
      rfl
    rw [(run_removeDelivered_cons client id ids cycle).2, removed]
    exact ih stays

/-- From a store that is not failing everything that was handed over is removed. -/
theorem unremoved_attend_of_unfailing (collecting : visit.Collecting packetSize client)
    (known : store.directory.hasId client = true) (unfailing : store.Unfailing) :
    (attend packetSize visit store).1.unremoved = [] := by
  obtain ⟨prepared, ready, -, -, -, -, kept, noted⟩ := ready_of_collecting collecting known
  have begun := congrArg Chronicle.Account.unremoved kept
  show (((Relay.ofPacketSize packetSize).dispatch visit.circumstances visit.peer).run
    (visit.start packetSize store)).state.store.unremoved = []
  rw [state_dispatch_of_ready ready]
  cases sent : (Outbox.send visit.peer (Relay.ofPacketSize packetSize).packetSize
    prepared.reply.response (((Relay.ofPacketSize packetSize).prepare visit.circumstances).run
      (visit.start packetSize store)).state.outbox).1 with
  | error e =>
    rw [store_finish_of_not_sent sent]
    exact begun
  | ok n =>
    rw [state_finish_of_sent sent,
      unremoved_removeDelivered prepared.sender visit.circumstances.now, store_answer]
    · exact begun
    · rw [store_answer, noted]
      exact unfailing.updateLastSeen client visit.circumstances.now

/-! ## Runs -/

/-- A connection strikes nobody off the roll. -/
theorem enrols_attend (packetSize : Nat) (visit : Visit) (enrols : store.Enrols roll) :
    (attend packetSize visit store).2.Enrols (roll ++ visit.registered packetSize store) := by
  rw [store_attend]
  exact enrols_outcome enrols

/-- Over any connections the roll only grows at its end. -/
theorem enrols_attendAll (packetSize : Nat) (visits : List Visit) (enrols : store.Enrols roll) :
    ∃ roll', roll <+: roll' ∧ (attendAll packetSize visits store).2.Enrols roll' := by
  induction visits generalizing store roll with
  | nil => exact ⟨roll, List.prefix_refl _, enrols⟩
  | cons visit visits ih =>
    obtain ⟨roll', among, enrols'⟩ := ih (enrols_attend packetSize visit enrols)
    exact ⟨roll', (List.prefix_append _ _).trans among, enrols'⟩

/-- A client stays registered. -/
theorem known_attendAll (packetSize : Nat) (visits : List Visit) (enrols : store.Enrols roll)
    (known : store.directory.hasId client = true) :
    ∃ roll', (attendAll packetSize visits store).2.Enrols roll' ∧
      (attendAll packetSize visits store).2.directory.hasId client = true := by
  obtain ⟨roll', among, enrols'⟩ := enrols_attendAll packetSize visits enrols
  obtain ⟨entry, listed, same⟩ := (enrols.hasId_iff client).1 known
  exact ⟨roll', enrols', (enrols'.hasId_iff client).2 ⟨entry, among.subset listed, same⟩⟩

/-- What is more than a reply can state is never handed over, so it only grows. -/
theorem overfull_attend (packetSize : Nat) (visit : Visit) (kept : store.mailbox.WellKept)
    (overfull : store.mailbox.Overfull client) :
    (attend packetSize visit store).2.mailbox.Overfull client := by
  obtain takesIn | ⟨other, handsOver⟩ := attend_effect packetSize visit store
  · exact overfull.grows takesIn.grows
  · have different : client ≠ other := by
      rintro rfl
      exact (exists_encode_handingOver_iff _ _).1 handsOver.encoded overfull
    have untouched := (handsOver.unread kept).2 client different
    change (attend packetSize visit store).2.mailbox.unread client = store.mailbox.unread client
      at untouched
    rw [Mailbox.Overfull, Mailbox.replySize, untouched]
    exact overfull

/-- Over any connections, a client for whom too much waits goes on having too much waiting. -/
theorem overfull_attendAll (packetSize : Nat) (visits : List Visit) (enrols : store.Enrols roll)
    (overfull : store.mailbox.Overfull client) :
    (attendAll packetSize visits store).2.mailbox.Overfull client := by
  induction visits generalizing store roll with
  | nil => exact overfull
  | cons visit visits ih =>
    exact ih (enrols_attend packetSize visit enrols)
      (overfull_attend packetSize visit enrols.kept overfull)

/-! ## Collecting -/

/-- What becomes of the messages on a connection on which a client collects. -/
structure Collected (packetSize : Nat) (client : ClientId) (visit : Visit) (store : Backend) :
    Prop where
  /-- All that waits for the client goes out in one response, unless it is too much. -/
  answered : ¬ store.mailbox.Overfull client →
    visit.Receives packetSize store
      (.unreadMessages ((store.mailbox.unread client).map entryOf))
  /-- The messages stand in the order of their numbers. -/
  ordered : (store.mailbox.unread client).Pairwise fun a b => a.id < b.id
  /-- What went out is removed, but for the messages whose removal fails. -/
  left : ¬ store.mailbox.Overfull client →
    (attend packetSize visit store).2.mailbox.unread client
      = (store.mailbox.unread client).filter fun message =>
          message.id ∈ (attend packetSize visit store).1.unremoved
  /-- In memory, and in files that take every record, nothing is left. -/
  emptied : ¬ store.mailbox.Overfull client → store.Unfailing →
    (attend packetSize visit store).2.mailbox.unread client = []
  /-- What is too much stays, and the client is told that the request failed. -/
  withheld : store.mailbox.Overfull client →
    visit.Receives packetSize store .genericError ∧
      (attend packetSize visit store).2.mailbox = store.mailbox
  /-- What waits for the others stays. -/
  others : ∀ other, other ≠ client →
    (attend packetSize visit store).2.mailbox.unread other = store.mailbox.unread other

/-- The connection of a registered client that collects ends as one of these does. -/
theorem collected_of_enrols (enrols : store.Enrols roll)
    (known : store.directory.hasId client = true)
    (collecting : visit.Collecting packetSize client) :
    Collected packetSize client visit store := by
  obtain ⟨stays, leaves⟩ := attend_collecting collecting known
  obtain ⟨prepared, -, ready, -, hands, -⟩ := ready_of_collecting collecting known
  have goes := receives_of_ready collecting.steady ready
  have response : prepared.reply.response
      = .unreadMessages ((store.mailbox.unread client).map entryOf) := by
    rw [hands]
    rfl
  have left_ : ¬ store.mailbox.Overfull client →
      (attend packetSize visit store).2.mailbox.unread client
        = (store.mailbox.unread client).filter fun message =>
            message.id ∈ (attend packetSize visit store).1.unremoved :=
    fun fits => ((leaves fits).unread enrols.kept).1
  refine {
    answered := ?_
    ordered := enrols.kept.ordered.filter _
    left := left_
    emptied := ?_
    withheld := ?_
    others := ?_ }
  · intro fits
    have encoded := (exists_encode_handingOver_iff client store.mailbox).2 fits
    rw [← response] at encoded
    rw [Reply.outgoing_of_encode encoded, response] at goes
    exact goes
  · intro fits unfailing
    rw [left_ fits, unremoved_attend_of_unfailing collecting known unfailing]
    simp
  · intro overfull
    refine ⟨?_, stays overfull⟩
    have unencoded : ¬ ∃ message, prepared.reply.response.encode = .ok message := by
      rw [response]
      exact fun encoded => (exists_encode_handingOver_iff client store.mailbox).1 encoded overfull
    rw [Reply.outgoing_of_not_encode unencoded] at goes
    exact goes
  · intro other different
    by_cases overfull : store.mailbox.Overfull client
    · rw [stays overfull]
    · exact ((leaves overfull).unread enrols.kept).2 other different

/-! ## Leaving a message in memory -/

/-- In memory a message is taken in as long as there are numbers. -/
theorem insertMessage_of_memory {volatile : Volatile}
    (room : volatile.mailbox.nextId ≠ Mailbox.lastId) (target sender : ClientId)
    (type : MessageType) (content : Bytes) :
    let out := (RelayStore.insertMessage target sender type content).run (Backend.memory volatile)
    out.result = .ok volatile.mailbox.nextId ∧
      out.state.mailbox = { volatile.mailbox with nextId := volatile.mailbox.nextId + 1 }.restore
        { id := volatile.mailbox.nextId, target, sender, type, content } := by
  have given := (Mailbox.allocate_eq_ok_iff volatile.mailbox _ _).2 ⟨room, rfl, rfl⟩
  show ((Volatile.insertMessage target sender type content).run volatile).result = _ ∧
    ((Volatile.insertMessage target sender type content).run volatile).state.mailbox = _
  simp only [Volatile.insertMessage, Action.run_bind, Action.run_look, Action.run_ofExcept, given]
  exact ⟨rfl, rfl⟩

/-- A message of a known type to a known client, once it is inserted, is answered with its
number. -/
theorem Handler.leaveMessage_of_inserted (occasion : Occasion) {target : ClientId} {number : UInt8}
    {type : MessageType} {content : Bytes} {id : UInt32}
    (typed : MessageType.ofNumber? number = some type)
    (known : store.directory.hasId target = true)
    (inserted : ((RelayStore.insertMessage target occasion.sender type content).run
      store).result = .ok id) :
    ((Handler.leaveMessage occasion target number content).run store).result
        = .ok { response := .messageSent target id, delivered := [] } ∧
      ((Handler.leaveMessage occasion target number content).run store).state
        = ((RelayStore.insertMessage target occasion.sender type content).run store).state := by
  simp only [Handler.leaveMessage, typed, Action.run_bind, Handler.storing, Action.run_mapError,
    Backend.run_hasId, known, mapError_ok, if_true, inserted]
  exact ⟨rfl, rfl⟩

/-- A message that a client leaves in memory for another waits behind those before it, however long
it is. -/
theorem attend_leaving {sender target : ClientId} {number : UInt8} {type : MessageType}
    {content : Bytes} {volatile : Volatile} (enrols : (Backend.memory volatile).Enrols roll)
    (asked : visit.request? packetSize = some (sender, .sendMessage target number content))
    (typed : MessageType.ofNumber? number = some type)
    (knownSender : (Backend.memory volatile).directory.hasId sender = true)
    (knownTarget : (Backend.memory volatile).directory.hasId target = true)
    (room : volatile.mailbox.nextId ≠ Mailbox.lastId) (steady : visit.peer.Steady) :
    visit.Receives packetSize (.memory volatile) (.messageSent target volatile.mailbox.nextId) ∧
      (attend packetSize visit (Backend.memory volatile)).2.mailbox
        = { volatile.mailbox with nextId := volatile.mailbox.nextId + 1 }.restore
            { id := volatile.mailbox.nextId, target, sender, type, content } := by
  obtain ⟨ready, left_⟩ := ready_of_request asked (.inr knownSender)
  have sighting := Backend.sighting sender visit.circumstances.now (.memory volatile)
  have noted : ∃ volatile', ((RelayStore.updateLastSeen sender visit.circumstances.now).run
      (Backend.memory volatile)).state = .memory volatile' := ⟨_, rfl⟩
  obtain ⟨volatile', noted⟩ := noted
  rw [noted] at ready left_ sighting
  -- the handler finds the store with the sender noted, which has the same mailbox
  have same : volatile'.mailbox = volatile.mailbox := sighting.mailbox_eq
  have known := ((enrols.sighting sighting).hasId_iff target).2
    ((enrols.hasId_iff target).1 knownTarget)
  obtain ⟨inserted, mailbox⟩ :=
    insertMessage_of_memory (same ▸ room) target (visit.occasion sender).sender type content
  obtain ⟨handled, state⟩ := Handler.leaveMessage_of_inserted (visit.occasion sender) typed known
    inserted
  simp only [Request.code, Handler.handle, handled, state] at ready left_
  refine ⟨?_, ?_⟩
  · have goes := receives_of_ready steady ready
    rw [Reply.outgoing_of_encode (Response.exists_encode_messageSent _ _)] at goes
    rw [← same]
    exact goes
  · have finished : (visit.outcome packetSize (.memory volatile)).state = _ :=
      (Action.run_bind_of_ok ready).2
    rw [store_attend, finished, store_finish_of_nothing rfl, left_, mailbox, same]
    rfl

/-! ## Messages that cannot be collected -/

/-- A message can be so long that a reply cannot state its entry. -/
theorem exists_oversized (sender target : ClientId) : ∃ (visit : Visit) (content : Bytes),
    visit.request? Protocol.packetSize = some (sender, .sendMessage target 3 content) ∧
      visit.peer.Steady ∧ 4294967296 ≤ messageEntryPreludeSize + content.length := by
  let content : Bytes := List.replicate 4294967274 0
  have size : content.length = 4294967274 := List.length_replicate
  have fits : (Request.sendMessage target 3 content).Fits := by
    show sendPreludeSize + content.length < 4294967296
    rw [size]
    decide
  obtain ⟨encoded, he⟩ : ∃ encoded, (Request.sendMessage target 3 content).encode sender
      = .ok encoded := Request.exists_encode_iff_fits.2 fits
  let visit : Visit := {
    Visit.ofRequest sender .unreadMessages with
    incoming := .ofReads (Framing.cut Protocol.packetSize encoded) }
  refine ⟨visit, content, request?_of_cut he trivial (by decide) rfl,
    Peer.steady_willing, ?_⟩
  rw [size]
  decide

/-- A message is taken in and can never be collected: its target is told that the request failed,
whenever it asks. -/
theorem exists_uncollectable (client neighbour : ClientId) (volatile : Volatile)
    (enrols : (Backend.memory volatile).Enrols roll)
    (known : (Backend.memory volatile).directory.hasId client = true)
    (knownNeighbour : (Backend.memory volatile).directory.hasId neighbour = true)
    (room : volatile.mailbox.nextId ≠ Mailbox.lastId) :
    ∃ (visit : Visit) (content : Bytes),
      visit.request? Protocol.packetSize = some (neighbour, .sendMessage client 3 content) ∧
      visit.Receives Protocol.packetSize (.memory volatile)
        (.messageSent client volatile.mailbox.nextId) ∧
      ∀ (visits : List Visit) (again : Visit), again.Collecting Protocol.packetSize client →
        let later := (attendAll Protocol.packetSize (visit :: visits) (Backend.memory volatile)).2
        again.Receives Protocol.packetSize later .genericError ∧
          (attend Protocol.packetSize again later).2.mailbox.unread client ≠ [] := by
  obtain ⟨visit, content, asked, steady, long⟩ := exists_oversized neighbour client
  obtain ⟨received, left_⟩ :=
    attend_leaving enrols asked rfl knownNeighbour known room steady
  have overfull : (attend Protocol.packetSize visit
      (Backend.memory volatile)).2.mailbox.Overfull client := by
    rw [left_, Mailbox.Overfull, (Mailbox.grows_take room rfl).replySize]
    simpa using Nat.le_add_left_of_le long
  refine ⟨visit, content, asked, received, fun visits again collecting => ?_⟩
  have stays := overfull_attendAll Protocol.packetSize visits
    (enrols_attend Protocol.packetSize visit enrols) overfull
  obtain ⟨roll', enrols', known'⟩ :=
    known_attendAll Protocol.packetSize (visit :: visits) enrols known
  obtain ⟨refused, kept⟩ := (collected_of_enrols enrols' known' collecting).withheld stays
  exact ⟨refused, kept.symm ▸ stays.unread_ne_nil⟩

/-! ## Over every run -/

/-- Over every run of connections on a store that was reached by calls and restarts, each client that
is registered is handed all that waits for it when it asks, unless that is more than a reply can
state; and if it is, it stays so. -/
theorem collects_unless_overfull (packetSize : Nat) {store : Backend} (reached : store.Reached)
    {client : ClientId} (known : store.directory.hasId client = true) (visits : List Visit) :
    let later := (attendAll packetSize visits store).2
    (store.mailbox.Overfull client → later.mailbox.Overfull client) ∧
      ∀ visit : Visit, visit.Collecting packetSize client →
        Collected packetSize client visit later := by
  intro later
  obtain ⟨roll, enrols⟩ := reached.enrols
  obtain ⟨roll', enrols', known'⟩ := known_attendAll packetSize visits enrols known
  exact ⟨overfull_attendAll packetSize visits enrols,
    fun _ collecting => collected_of_enrols enrols' known' collecting⟩

/-- Two clients are registered. -/
def neighbours (store : Backend) : Backend :=
  let morning : Timestamp := ⟨⟨2026, 5, 3, by decide⟩, 8, 15, 0, 0, by decide⟩
  let register (n : UInt8) (name : String) (store : Backend) : Backend :=
    (((StoreCall.insertClient (.ofBytes [n]) name (List.replicate publicKeySize n)).perform
      morning).run store).state
  register 2 "b" (register 1 "a" store)

/-- Registering two clients leads to a store that is reached if it started from one. -/
theorem reached_neighbours (reached : store.Reached) : (neighbours store).Reached :=
  (reached.call _ _).call _ _

/-- Registering two clients in memory leads to a store in memory. -/
theorem memory_neighbours (volatile : Volatile) :
    ∃ volatile', neighbours (.memory volatile) = .memory volatile' := by
  simp only [neighbours, Backend.run_perform_memory]
  exact ⟨_, rfl⟩

/-- The connection made of a request for messages is one on which the client collects. -/
theorem collecting_ofRequest (packetSize : Nat) (client : ClientId) :
    (Visit.ofRequest client .unreadMessages).Collecting packetSize client := by
  have encodes : Request.unreadMessages.encode client
      = .ok ((Request.unreadMessages.header client).encode ++ []) := rfl
  have size := (Request.unreadMessages.header client).length_encode
  rw [List.append_nil] at encodes
  generalize (Request.unreadMessages.header client).encode = encoded at encodes size
  have brought : (Visit.ofRequest client .unreadMessages).incoming = .ofReads [encoded] := by
    simp only [Visit.ofRequest, encodes]
    rfl
  have division : Division (max packetSize requestHeaderSize) (encoded ++ []) [encoded] := by
    refine ⟨by simp, ?_, ?_⟩
    · intro read brings
      rw [List.mem_singleton.1 brings]
      exact List.ne_nil_of_length_pos (size ▸ by decide)
    · intro read brings
      rw [List.mem_singleton.1 brings, size]
      exact Nat.le_max_right _ _
  refine ⟨request?_of_division encodes trivial brought division ?_ trivial, Peer.steady_willing⟩
  intro first brings
  cases brings
  exact Nat.le_of_eq size.symm

/-- A client collects the note that its neighbour left. -/
theorem collects_unless_overfull_note :
    let client := ClientId.ofBytes [1]
    let note := Visit.ofRequest (.ofBytes [2]) (.sendMessage client 3 [42])
    let store := (attendAll Protocol.packetSize [note] (neighbours (.memory .empty))).2
    let visit := Visit.ofRequest client .unreadMessages
    visit.Receives Protocol.packetSize store
        (.unreadMessages [⟨.ofBytes [2], 1, .textMessage, [42]⟩]) ∧
      (attend Protocol.packetSize visit store).2.mailbox.unread client = [] := by
  intro client note store visit
  have reached := reached_neighbours (.fresh .memory)
  have collecting : visit.Collecting Protocol.packetSize client :=
    collecting_ofRequest Protocol.packetSize client
  have collected := (collects_unless_overfull Protocol.packetSize reached
    (by decide +kernel) [note]).2 visit collecting
  have fits : ¬ store.mailbox.Overfull client := Nat.not_le.2 (by decide +kernel)
  have waits : (store.mailbox.unread client).map entryOf
      = [⟨.ofBytes [2], 1, .textMessage, [42]⟩] := by decide +kernel
  rw [← waits]
  exact ⟨collected.answered fits, collected.emptied fits (by decide +kernel)⟩

/-- A connection is not answered if its first read is shorter than a header, whatever comes later. -/
theorem unanswered_of_short_read {first : Bytes} {later : Incoming}
    (brought : visit.incoming = .chunk first :: later) (short : first.length < requestHeaderSize) :
    (∃ cause, (visit.outcome packetSize store).result = .error (.badHeader cause)) ∧
      (visit.outcome packetSize store).state.outbox = .empty := by
  have unread : ∀ {header intake},
      Intake.readHeader.outcome (Intake.start packetSize visit.incoming) ≠ (.ok header, intake) := by
    intro header intake read
    obtain ⟨bytes, rest, read, decoded⟩ := Intake.read_of_readHeader read
    have room : first.length ≤ (Intake.start packetSize visit.incoming).room :=
      Nat.le_trans (Nat.le_of_lt short) (Nat.le_max_right _ _)
    rw [brought] at read room
    rw [Incoming.read, if_pos room] at read
    cases read
    rw [RequestHeader.decode, if_pos short] at decoded
    cases decoded
  obtain ⟨failed, -, silent⟩ := (Relay.ofPacketSize packetSize).dispatchOn_of_no_header
    visit.circumstances visit.peer unread store
  exact ⟨failed, silent⟩

/-- What was handed over stays if its removal cannot be written. -/
theorem exists_left_over :
    let client := ClientId.ofBytes [1]
    let visit := Visit.ofRequest client .unreadMessages
    ∃ store : Backend, store.Reached ∧ store.directory.hasId client = true ∧
      visit.Receives Protocol.packetSize store
        (.unreadMessages [⟨.ofBytes [2], 1, .textMessage, [42]⟩]) ∧
      (attend Protocol.packetSize visit store).2.mailbox.unread client
        = [⟨1, client, .ofBytes [2], .textMessage, [42]⟩] := by
  intro client visit
  let folder : DataFolder := { DataFolder.empty "data" with rooms := [1000, 0] }
  have opened : (Durable.openFolder.run folder).result = .ok _ :=
    Durable.result_openFolder_of_noFiles rfl rfl
  have reached := (reached_neighbours (.fresh (.files folder _ rfl rfl opened))).call
    (.insertMessage client (.ofBytes [2]) .textMessage [42]) visit.circumstances.now
  generalize made : (Action.run _ _).state = store at reached
  have known : store.directory.hasId client = true := by
    rw [← made]
    decide +kernel
  have waits : (store.mailbox.unread client).map entryOf
      = [⟨.ofBytes [2], 1, .textMessage, [42]⟩] := by
    rw [← made]
    decide +kernel
  have fits : ¬ store.mailbox.Overfull client := by
    rw [← made]
    exact Nat.not_le.2 (by decide +kernel)
  obtain ⟨roll, enrols⟩ := reached.enrols
  have collected := collected_of_enrols enrols known
    (collecting_ofRequest Protocol.packetSize client)
  refine ⟨store, reached, known, ?_, ?_⟩
  · rw [← waits]
    exact collected.answered fits
  · rw [← made]
    decide +kernel

/-- Collecting can fail in three ways: by a message that is taken in and never handed over, by reads
that divide the header of a request, and by a message that is handed over and stays. -/
theorem collecting_not_certain :
    let client := ClientId.ofBytes [1]
    let visit := Visit.ofRequest client .unreadMessages
    let store := neighbours (.memory .empty)
    store.Reached ∧ store.directory.hasId client = true ∧
      (∃ (note : Visit) (content : Bytes),
        note.request? Protocol.packetSize = some (.ofBytes [2], .sendMessage client 3 content) ∧
        note.Receives Protocol.packetSize store (.messageSent client 1) ∧
        ∀ (visits : List Visit) (again : Visit), again.Collecting Protocol.packetSize client →
          let later := (attendAll Protocol.packetSize (note :: visits) store).2
          again.Receives Protocol.packetSize later .genericError ∧
            (attend Protocol.packetSize again later).2.mailbox.unread client ≠ []) ∧
      (∃ encoded, Request.unreadMessages.encode client = .ok encoded ∧
        let divided : Visit := {
          visit with incoming := .ofReads [encoded.take 22, encoded.drop 22] }
        divided.peer.Steady ∧
          (divided.outcome Protocol.packetSize store).state.outbox = .empty) ∧
      ∃ left : Backend, left.Reached ∧ left.directory.hasId client = true ∧
        visit.Receives Protocol.packetSize left
          (.unreadMessages [⟨.ofBytes [2], 1, .textMessage, [42]⟩]) ∧
        (attend Protocol.packetSize visit left).2.mailbox.unread client
          = [⟨1, client, .ofBytes [2], .textMessage, [42]⟩] := by
  intro client visit store
  have reached : store.Reached := reached_neighbours (.fresh .memory)
  have known : store.directory.hasId client = true := by decide +kernel
  refine ⟨reached, known, ?_, ?_, exists_left_over⟩
  · have knownNeighbour : store.directory.hasId (.ofBytes [2]) = true := by decide +kernel
    have first : store.mailbox.nextId = 1 := by decide +kernel
    obtain ⟨roll, enrols⟩ := reached.enrols
    obtain ⟨volatile, same⟩ : ∃ volatile, store = .memory volatile := memory_neighbours .empty
    clear_value store
    subst same
    have first : volatile.mailbox.nextId = 1 := first
    rw [← first]
    exact exists_uncollectable client _ volatile enrols known knownNeighbour (by rw [first]; decide)
  · refine ⟨_, rfl, Peer.steady_willing, ?_⟩
    exact (unanswered_of_short_read rfl (by decide +kernel)).2

end Service

end MessageRelay
