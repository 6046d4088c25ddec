import MessageRelay.Proofs.Protocol.ResponseRoundTrip
import MessageRelay.Proofs.Service.Delivery
import MessageRelay.Proofs.Service.Handling
import MessageRelay.Proofs.Service.OneResponse

/-!
# Refused requests leave no trace

A request that is turned away before its sender is known leaves the store as it was, files included.
One that is answered with the news that it failed leaves the clients and the messages as they were,
in memory and for the next opening of the files (`refused_traceless`): only the caller may have been
seen, and the number of a message may be used up.

The news is sent for a handler that failed, which has left the data alone, or for a reply without an
encoding. Such a reply comes from a handler that only asks: the replies of those that change the
store have an encoding, whatever is in them.
-/

set_option autoImplicit false

namespace MessageRelay.Service

open Connection
open Protocol
open Store (Backend Contents DataFolder Directory Durable Mailbox)

variable {client : ClientId} {now : Timestamp} {store store' : Backend}

/-! ## Traces -/

/-- The same contents, but for when a client was last seen. -/
structure SameButSeen (client : ClientId) (now : Timestamp) (contents contents' : Contents) :
    Prop where
  clients : contents'.clients = contents.clients ∨
    contents'.clients = contents.clients.map (Directory.seenAt client now)
  messages : contents'.messages = contents.messages

/-- What a request that failed may leave of a store. -/
structure Traceless (client : ClientId) (now : Timestamp) (store store' : Backend) : Prop where
  /-- The clients are as they were, but for when the caller was last seen. -/
  directory : store'.directory = store.directory ∨
    ∃ before, store.directory.see? client now = some (before, store'.directory)
  /-- The messages are as they were, and so is the next number, or it is used up. -/
  mailbox : store'.mailbox = store.mailbox ∨ store.mailbox.nextId ≠ Mailbox.lastId ∧
    store'.mailbox = { store.mailbox with nextId := store.mailbox.nextId + 1 }
  contents : SameButSeen client now store.contents store'.contents
  /-- Both stores can be closed and opened again. -/
  opens : (Backend.reopen.run store).result = .ok () ∧ (Backend.reopen.run store').result = .ok ()
  reopened : SameButSeen client now (Backend.reopen.run store).state.contents
    (Backend.reopen.run store').state.contents
  /-- The next number in the files is as it was. -/
  number : (Backend.reopen.run store').state.mailbox.nextId
    = (Backend.reopen.run store).state.mailbox.nextId

/-- A store keeps its contents if its directory changes at most in when a client was seen, and its
mailbox keeps its messages. -/
theorem sameButSeen_of_directory {directory directory' : Directory} {mailbox mailbox' : Mailbox}
    (consistent : directory.Consistent)
    (clients : directory' = directory ∨
      ∃ before, directory.see? client now = some (before, directory'))
    (messages : mailbox'.messages = mailbox.messages) :
    SameButSeen client now (.of directory mailbox) (.of directory' mailbox') where
  clients := by
    obtain rfl | ⟨before, seen⟩ := clients
    · exact .inl rfl
    · exact .inr (consistent.sorted_see seen)
  messages := messages

/-- A store that changed at most in when a client was seen and in the next number has no trace of a
request. -/
theorem traceless_of_accords {next : UInt32} (sound : store.Sound next)
    (accords : store.Accords store')
    (directory : store'.directory = store.directory ∨
      ∃ before, store.directory.see? client now = some (before, store'.directory))
    (mailbox : store'.mailbox = store.mailbox ∨ store.mailbox.nextId ≠ Mailbox.lastId ∧
      store'.mailbox = { store.mailbox with nextId := store.mailbox.nextId + 1 }) :
    Traceless client now store store' := by
  have messages : store'.mailbox.messages = store.mailbox.messages := by
    obtain same | ⟨-, wasted⟩ := mailbox
    · rw [same]
    · rw [wasted]
  have contents : SameButSeen client now store.contents store'.contents :=
    sameButSeen_of_directory sound.consistent directory messages
  obtain ⟨opens, found, number, -⟩ := sound.reopen
  obtain ⟨opens', found', number', -⟩ := (accords.sound next sound).reopen
  refine ⟨directory, mailbox, contents, ⟨opens, opens'⟩, ?_, ?_⟩
  · rw [found, found']
    cases store with
    | memory store =>
      cases store' with
      | memory store' => exact ⟨.inl rfl, rfl⟩
      | files store' => cases accords.kind
    | files store =>
      cases store' with
      | memory store' => cases accords.kind
      | files store' => exact contents
  · rw [number, number', accords.kind]

/-! ## Handlers -/

/-- A handler whose reply gives way to the news that the request failed has spared the store, and
nothing is removed for it. -/
theorem Handler.spared_of_handling {handler : Handler} {occasion : Occasion} {request : Request}
    {result : Except HandlerError Reply}
    (handling : Handler.Handling handler occasion store request result store')
    (refused : (Reply.ofResult result).outgoing = .genericError) : store.Spared store' := by
  cases handling with
  | asking => exact .refl store
  | registering own registering =>
    cases registering with
    | nameTaken | noFreshId => exact .refl store
    | failed free fresh failed =>
      cases failed with
      | refused => exact .refl store
      | unwritten fault spared => exact spared
    | registered =>
      rw [Reply.outgoing_of_encode (Response.exists_encode_registered _)] at refused
      cases refused
  | leaving leaving =>
    cases leaving with
    | refused spared => exact spared
    | taken =>
      rw [Reply.outgoing_of_encode (Response.exists_encode_messageSent _ _)] at refused
      cases refused

/-- A reply that gives way to the news that the request failed removes nothing, or has no
encoding. -/
theorem Handler.quiet_of_refusal {handler : Handler} {occasion : Occasion} {request : Request}
    (refused : (Reply.ofResult
      ((handler.handle occasion request).run store).result).outgoing = .genericError) :
    (Reply.ofResult ((handler.handle occasion request).run store).result).delivered = [] ∨
      ∃ wire, (Reply.ofResult
        ((handler.handle occasion request).run store).result).response.encode = .error wire := by
  cases handled : ((handler.handle occasion request).run store).result with
  | error e => exact .inl rfl
  | ok reply =>
    rw [handled] at refused
    obtain quiet | ⟨messages, -, -, rfl⟩ := Handler.reply_of_handle handled
    · exact .inl quiet.1
    · right
      cases encoded : (Reply.handingOver messages).response.encode with
      | error wire => exact ⟨wire, encoded⟩
      | ok bytes =>
        simp only [Reply.ofResult, Reply.outgoing, encoded] at refused
        cases refused

/-! ## Connections -/

namespace Relay

/-- Nothing is removed from the store if the reply delivers nothing or has no encoding. -/
theorem store_finish_of_quiet {relay : Relay} {peer : Peer} {prepared : Prepared}
    {cycle : Cycle Backend}
    (quiet : prepared.reply.delivered = [] ∨ ∃ wire, prepared.reply.response.encode = .error wire) :
    ((relay.finish peer prepared).run cycle).state.store = cycle.store := by
  obtain none | ⟨wire, unencoded⟩ := quiet
  · exact store_finish_of_nothing none
  · have unframed : framed relay.packetSize prepared.reply.response = .error wire := by
      rw [framed, unencoded]
      rfl
    exact store_finish_of_not_sent
      (congrArg Prod.fst (Outbox.send_of_not_framed peer cycle.outbox unframed))

/-- A request that is turned away leaves the store. -/
theorem store_of_unready {relay : Relay} {circumstances : Circumstances} {cycle : Cycle Backend}
    {cause : DispatchError}
    (h : ((relay.prepare circumstances).run cycle).result = .error cause) :
    ((relay.prepare circumstances).run cycle).state.store = cycle.store := by
  have preparation := prepare_preparation relay circumstances cycle
  generalize ((relay.prepare circumstances).run cycle).state = left_ at preparation ⊢
  rw [h] at preparation
  cases preparation with
  | badHeader | unknownCode => rfl
  | turnedAway read known turned => exact turned.store_eq

/-- A request whose reply gives way to the news that it failed leaves no trace until then. -/
theorem traceless_of_ready {relay : Relay} {circumstances : Circumstances} {cycle : Cycle Backend}
    {prepared : Prepared} {next : UInt32} (sound : cycle.store.Sound next)
    (h : ((relay.prepare circumstances).run cycle).result = .ok prepared)
    (refused : prepared.reply.outgoing = .genericError) :
    (∃ client, callerOf cycle.intake = some client ∧
        Traceless client circumstances.now cycle.store
          ((relay.prepare circumstances).run cycle).state.store) ∧
      (prepared.reply.delivered = [] ∨
        ∃ wire, prepared.reply.response.encode = .error wire) := by
  have preparation := prepare_preparation relay circumstances cycle
  generalize ((relay.prepare circumstances).run cycle).state = left_ at preparation ⊢
  rw [h] at preparation
  cases preparation with
  | @ready header intake code handler checked seen result _ read known routed admitted noted serving =>
    have named : callerOf cycle.intake = some header.clientId := by
      have read' : (Intake.readHeader.run.run cycle.intake).1 = .ok header :=
        congrArg Prod.fst read
      unfold callerOf
      rw [read']
    have sighting := admitted.sighting circumstances.now
    rw [noted] at sighting
    -- the store when the handler is called
    have spared : cycle.store.Accords seen.state ∧ seen.state.mailbox = cycle.store.mailbox ∧
        (seen.state.directory = cycle.store.directory ∨ ∃ before,
          cycle.store.directory.see? header.clientId circumstances.now
            = some (before, seen.state.directory)) := by
      generalize seen.state = after at sighting
      cases sighting with
      | unknown => exact ⟨.refl _, rfl, .inl rfl⟩
      | unwritten fault accords directory mailbox => exact ⟨accords, mailbox, .inl directory⟩
      | seen accords h mailbox => exact ⟨accords, mailbox, .inr ⟨_, h⟩⟩
    obtain ⟨accords, mailbox, directory⟩ := spared
    cases serving with
    | badBody read =>
      exact ⟨⟨_, named, traceless_of_accords sound accords directory (.inl mailbox)⟩, .inl rfl⟩
    | handled read run =>
      rename_i request intake' out
      have handling := Handler.handle_handling handler
        { sender := header.clientId, now := circumstances.now
          candidates := circumstances.candidates } request seen.state
      have quiet : (Reply.ofResult out.result).delivered = [] ∨
          ∃ wire, (Reply.ofResult out.result).response.encode = .error wire := by
        rw [← run] at refused ⊢
        exact Handler.quiet_of_refusal refused
      simp only at run
      rw [run] at handling
      have left_ := Handler.spared_of_handling handling refused
      refine ⟨⟨_, named, traceless_of_accords sound (accords.trans left_.toAccords) ?_ ?_⟩, quiet⟩
      · rw [left_.directory]
        exact directory
      · rw [← mailbox]
        exact left_.mailbox

/-- A request that is turned away changes nothing, and one that is answered with the news that it
failed leaves no trace, however the store came to be what it is and whatever fails. -/
theorem refused_traceless (relay : Relay) (circumstances : Circumstances) (peer : Peer)
    (incoming : Incoming) {store : Backend} (reached : store.Reached) :
    (∀ cause, (relay.dispatchOn circumstances peer incoming store).result = .error cause →
        (∀ sending, cause ≠ .notSent sending) →
        (relay.dispatchOn circumstances peer incoming store).state.store = store) ∧
      ((relay.dispatchOn circumstances peer incoming store).result = .ok .genericError →
        ∃ client, callerOf (Intake.start relay.packetSize incoming) = some client ∧
          Traceless client circumstances.now store
            (relay.dispatchOn circumstances peer incoming store).state.store) := by
  obtain ⟨next, sound⟩ := reached.sound
  unfold dispatchOn
  cases ready : ((relay.prepare circumstances).run
    ⟨store, Intake.start relay.packetSize incoming, .empty⟩).result with
  | error cause =>
    rw [dispatch_of_unready peer ready]
    refine ⟨fun _ _ _ => store_of_unready ready, ?_⟩
    intro failed
    cases failed
  | ok prepared =>
    have answered := dispatch_answered peer rfl ready
    refine ⟨?_, ?_⟩
    · intro cause failed early
      rw [failed] at answered
      cases answered with
      | broken => exact absurd rfl (early _)
    · intro failed
      -- the code that went out is that of the response that went out
      have refused : prepared.reply.outgoing = .genericError := by
        rw [failed] at answered
        generalize hr : prepared.reply.outgoing = response at answered
        generalize hc : ResponseCode.genericError = code at answered
        cases answered with
        | whole => cases response <;> first | rfl | cases hc
      obtain ⟨⟨client, named, traceless⟩, quiet⟩ := traceless_of_ready sound ready refused
      refine ⟨client, named, ?_⟩
      rw [dispatch, Action.run_bind, ready]
      simp only
      rw [store_finish_of_quiet quiet]
      exact traceless

/-- A client leaves a message for itself. -/
def noteWithoutRoom : Visit :=
  .ofRequest (.ofBytes [1]) (.sendMessage (.ofBytes [1]) 3 [42])

/-- A message for which the log has no room is answered with the news that the request failed, and
leaves no trace but a number that is used up. -/
theorem refused_traceless_noRoom :
    ∃ store : Backend, store.Reached ∧
      (Relay.standard.dispatchOn noteWithoutRoom.circumstances noteWithoutRoom.peer
        noteWithoutRoom.incoming store).result = .ok .genericError ∧
      (Relay.standard.dispatchOn noteWithoutRoom.circumstances noteWithoutRoom.peer
        noteWithoutRoom.incoming store).state.store.mailbox.nextId = 2 ∧
      ∃ client, Traceless client noteWithoutRoom.circumstances.now store
        (Relay.standard.dispatchOn noteWithoutRoom.circumstances noteWithoutRoom.peer
          noteWithoutRoom.incoming store).state.store := by
  let folder : DataFolder := { DataFolder.empty "data" with rooms := [0] }
  have opened : (Durable.openFolder.run folder).result = .ok _ :=
    Durable.result_openFolder_of_noFiles rfl rfl
  have fresh : (Backend.files _).Reached := .fresh (.files folder _ rfl rfl opened)
  have reached := fresh.call (.insertClient (.ofBytes [1]) "a" (List.replicate publicKeySize 7))
    noteWithoutRoom.circumstances.now
  obtain ⟨client, -, traceless⟩ := (refused_traceless Relay.standard noteWithoutRoom.circumstances
    noteWithoutRoom.peer noteWithoutRoom.incoming reached).2 (by decide +kernel)
  exact ⟨_, reached, by decide +kernel, by decide +kernel, client, traceless⟩

end Relay

end MessageRelay.Service
