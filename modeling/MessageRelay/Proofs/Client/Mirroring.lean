import MessageRelay.Client.Call
import MessageRelay.Proofs.Client.Receiving
import MessageRelay.Proofs.Service.OneResponse
import MessageRelay.Proofs.Service.PlainNames

/-!
# What a client is told is what the relay did

A call goes through both codecs and both framings: the request is encoded and sent in filled-up
packets, read by the relay in some reads and handled, and the response comes back the same way. When
the first read brings the prelude of a message with the header and no socket fails, nothing is lost
on the way (`call_mirrors_dispatch`): the call ends with the fields of the handler's response, or it
is rejected, or it gets no response, as the relay ended the connection.

The way there and the way back are followed one after the other. The relay reads of a call what its
body says by itself (`Call.Heard`), and the handler's reply answers that request
(`prepare_of_call`). What went out is the whole of one response with plain names, which the client
receives (`receive_of_taken`) and which fits the call (`interpret_of_code`).
-/

set_option autoImplicit false

namespace MessageRelay

open Connection
open Protocol
open Service
open Store (Backend RelayStore)

namespace Client

/-! ## Requests and responses of calls -/

/-- What a client is told of a response, if it is not that the request failed. -/
def Answer.of? : Response → Option Answer
  | .registered id => some (.registered id)
  | .clientsList entries => some (.clients entries)
  | .publicKey id key => some (.publicKey id key)
  | .messageSent _ id => some (.messageSent id)
  | .unreadMessages entries => some (.unreadMessages entries)
  | .genericError => none

/-- A response of the kind that a call asks for is what the call gives. -/
theorem Call.interpret_of_code {call : Call} {response : Response}
    (h : response.code = call.request.code.answer) :
    ∃ answer, Answer.of? response = some answer ∧ call.interpret response = .ok answer := by
  cases call <;> cases response <;> cases h <;> exact ⟨_, rfl, rfl⟩

/-- A generic error is a rejection for every call. -/
theorem Call.interpret_genericError (call : Call) :
    call.interpret .genericError = .error .rejected := by
  cases call <;> rfl

/-- The request that the body of a call says by itself. It is the request of the call, but for a
name with a zero byte in it, where its field ends early. -/
def Call.Heard (call : Call) (request : Request) : Prop :=
  ∃ body, call.request.encodeBody = .ok body ∧
    Request.decodeBody call.request.code body = .ok request

/-- A request without zero bytes in its names is heard as it was made. -/
theorem Call.Heard.eq_of_plain {call : Call} {request : Request} (heard : call.Heard request)
    (plain : call.request.HasPlainName) : request = call.request := by
  obtain ⟨body, encoded, decoded⟩ := heard
  have alone := Request.decodeBody_of_encodeBody encoded plain []
  rw [List.append_nil, decoded] at alone
  exact Except.ok.inj alone

/-- The packets of a call, put together, are its header, its body and zero bytes. -/
theorem Call.flatten_of_packets {call : Call} {sender : ClientId} {packets : List Bytes}
    (packed : call.packets sender = .ok packets) :
    ∃ (header : RequestHeader) (body padding : Bytes), call.request.encodeBody = .ok body ∧
      header.clientId = sender ∧ header.code = call.request.code.number ∧
      packets.flatten = header.encode ++ (body ++ padding) := by
  unfold Call.packets at packed
  cases encoded : call.request.encode sender with
  | error cause =>
    rw [encoded] at packed
    cases packed
  | ok message =>
    rw [encoded] at packed
    cases packed
    obtain ⟨header, body, filled, named, coded, -, rfl⟩ := Request.encode_eq_ok encoded
    obtain ⟨count, joined⟩ := Framing.exists_flatten_splitPadded packetSize (header.encode ++ body)
    exact ⟨header, body, _, filled, named, coded, by rw [joined, List.append_assoc]⟩

/-! ## The way there -/

/-- A handler of a relay makes this reply to a request, in the store as it is once the sender was
noted. -/
def Replies (relay : Relay) (circumstances : Circumstances) (store : Backend) (sender : ClientId)
    (request : Request) (reply : Reply) : Prop :=
  ∃ handler, relay.router.find? request.code = some handler ∧
    ((handler.handle
      { sender, now := circumstances.now, candidates := circumstances.candidates } request).run
      ((RelayStore.updateLastSeen sender circumstances.now).run store).state).result = .ok reply

variable {relay : Relay} {circumstances : Circumstances} {store : Backend} {call : Call}
  {sender : ClientId} {packets reads : List Bytes}

/-- No name in a reply has a zero byte if none in the store has one. -/
theorem Replies.hasPlainNames {request : Request} {reply : Reply}
    (replied : Replies relay circumstances store sender request reply)
    (plain : store.NamedPlainly) : reply.response.HasPlainNames := by
  obtain ⟨handler, -, handled⟩ := replied
  exact Handler.hasPlainNames_of_handle
    (plain.sighting (Backend.sighting sender circumstances.now store)) handled

/-- A handler answers what the call asked for. -/
theorem Call.Heard.fits {request : Request} {reply : Reply} (heard : call.Heard request)
    (replied : Replies relay circumstances store sender request reply) :
    reply.response.code = call.request.code.answer := by
  obtain ⟨body, -, decoded⟩ := heard
  obtain ⟨handler, -, handled⟩ := replied
  rw [← Request.code_of_decodeBody decoded]
  exact Handler.code_of_handle handled

/-- The reply that gets ready for a call is that of the handler to the request that was heard, or
the news that the request failed. -/
theorem prepare_of_call (packed : call.packets sender = .ok packets)
    (division : Division (max relay.packetSize requestHeaderSize) packets.flatten reads)
    (first : ∀ first ∈ reads.head?, requestHeaderSize + sendPreludeSize ≤ first.length)
    {prepared : Prepared}
    (ready : ((relay.prepare circumstances).run
      ⟨store, Intake.start relay.packetSize (.ofReads reads), .empty⟩).result = .ok prepared) :
    prepared.reply.response = .genericError ∨
      ∃ request, call.Heard request ∧
        Replies relay circumstances store sender request prepared.reply := by
  obtain ⟨header, body, padding, filled, named, coded, joined⟩ := call.flatten_of_packets packed
  rw [joined] at division
  obtain ⟨kept, later, rfl⟩ := exists_kept division fun read hr =>
    Nat.le_trans (Nat.le_add_right _ _) (first read hr)
  have prelude : sendPreludeSize ≤ kept.length := by
    have long := first _ rfl
    rw [List.length_append, header.length_encode] at long
    omega
  have read := Intake.outcome_readHeader relay.packetSize (header.encode ++ kept) later header
    (division.fits _ List.mem_cons_self) (header.decode_encode kept)
  have whole := readBody_of_encodeBody filled division prelude
  rw [Intake.readBody_of_readHeader read] at whole
  have preparation := relay.prepare_preparation circumstances
    ⟨store, Intake.start relay.packetSize (.ofReads ((header.encode ++ kept) :: later)), .empty⟩
  rw [ready] at preparation
  generalize ((relay.prepare circumstances).run (⟨store, Intake.start relay.packetSize
    (.ofReads ((header.encode ++ kept) :: later)), .empty⟩ : Service.Cycle Backend)).state = left_
    at preparation
  -- a reply is ready in one way only: the header named the code of the call
  cases preparation with
  | @ready _ _ code handler checked seen result _ read' known routed admitted noted serving =>
    cases read.symm.trans read'
    rw [coded, RequestCode.ofNumber?_number] at known
    cases known
    cases serving with
    | badBody => exact .inl rfl
    | @handled request _ out read'' run =>
      cases handled : out.result with
      | error e => exact .inl rfl
      | ok reply =>
        -- what the handler got is what the body says by itself
        have decoded : Request.decodeBody call.request.code body = .ok request := by
          rw [read''] at whole
          cases said : Request.decodeBody call.request.code body with
          | error cause =>
            rw [said] at whole
            cases whole
          | ok heard =>
            rw [said] at whole
            cases whole
            rfl
        have kind := Request.code_of_decodeBody decoded
        have same : checked = store := admitted.store_eq
        subst same named noted run
        exact .inr ⟨request, ⟨body, filled, decoded⟩, handler, kind ▸ routed, handled⟩

/-! ## The way back -/

/-- A caller receives the response whose framing the connection took, however it is cut on its
way. -/
theorem receive_of_taken {packetSize : Nat} {response : Response} {bytes : Bytes}
    {pieces : List Bytes} (framing : framed packetSize response = .ok bytes)
    (plain : response.HasPlainNames) (joined : pieces.flatten = bytes)
    (nonempty : ∀ piece ∈ pieces, piece ≠ []) :
    Reception.receive (.ofReads pieces) = .ok response := by
  unfold framed at framing
  cases encoded : response.encode with
  | error cause =>
    rw [encoded] at framing
    cases framing
  | ok message =>
    rw [encoded] at framing
    cases framing
    refine Reception.receive_of_prefix encoded plain ?_ nonempty
    rw [joined]
    show message <+: (Framing.split packetSize message).flatten
    rw [Framing.flatten_split]
    exact List.prefix_append _ _

/-- Once a response is received, a call concludes with what this response means to it. -/
theorem Call.conclude_of_receive (call : Call) {incoming : Incoming} {response : Response}
    (received : Reception.receive incoming = .ok response) :
    call.conclude incoming = call.interpret response := by
  rw [conclude, received]
  rfl

/-- How a call ends, given how the relay ended the connection of the call. -/
structure Mirrors (relay : Relay) (circumstances : Circumstances) (store : Backend) (call : Call)
    (sender : ClientId) (dispatched : Except DispatchError ResponseCode)
    (given : Except ClientError Answer) : Prop where
  /-- A response that says more than that the request failed is the handler's, and its fields are
  what the call gives. -/
  success : ∀ code, dispatched = .ok code → code ≠ .genericError →
    ∃ request reply answer, call.Heard request ∧
      Replies relay circumstances store sender request reply ∧ reply.response.code = code ∧
      Answer.of? reply.response = some answer ∧ given = .ok answer
  failure : dispatched = .ok .genericError → given = .error .rejected
  silence : ∀ cause, dispatched = .error cause → given = .error .noResponse
  /-- A call fails in no other way. -/
  errors : ∀ error, given = .error error → error = .rejected ∨ error = .noResponse

variable {given : Except ClientError Answer}

/-- A connection that ended without a response is mirrored by the news that there was none. -/
theorem Mirrors.of_silence (cause : DispatchError) (unanswered : given = .error .noResponse) :
    Mirrors relay circumstances store call sender (.error cause) given where
  success code sent := by cases sent
  failure sent := by cases sent
  silence _ _ := unanswered
  errors error failed := .inr (Except.error.inj (failed.symm.trans unanswered))

/-- A connection that ended with a generic error is mirrored by a rejection. -/
theorem Mirrors.of_generic (rejected : given = .error .rejected) :
    Mirrors relay circumstances store call sender (.ok .genericError) given where
  success code sent other := absurd (Except.ok.inj sent).symm other
  failure _ := rejected
  silence cause failed := by cases failed
  errors error failed := .inl (Except.error.inj (failed.symm.trans rejected))

/-- A connection that ended with its reply is mirrored by the fields of this reply. -/
theorem Mirrors.of_reply {request : Request} {reply : Reply} {answer : Answer}
    (heard : call.Heard request)
    (replied : Replies relay circumstances store sender request reply)
    (fields : Answer.of? reply.response = some answer) (answered : given = .ok answer) :
    Mirrors relay circumstances store call sender (.ok reply.response.code) given where
  success := by
    rintro _ ⟨⟩ -
    exact ⟨request, reply, answer, heard, replied, rfl, fields, answered⟩
  failure sent := by
    have told := heard.fits replied
    rw [Except.ok.inj sent] at told
    exact absurd told.symm call.request.code.answer_ne_genericError
  silence cause failed := by cases failed
  errors error failed := by cases answered.symm.trans failed

/-- On a store that connections filled, and with sockets that do not fail, a call ends as the relay
ended its connection, however the request and the response are divided: the first read has to bring
the prelude of a message. -/
theorem call_mirrors_dispatch (visited : Visited store) (relay : Relay)
    (circumstances : Circumstances) {peer : Peer} (steady : peer.Steady)
    (packed : call.packets sender = .ok packets)
    (division : Division (max relay.packetSize requestHeaderSize) packets.flatten reads)
    (first : ∀ first ∈ reads.head?, requestHeaderSize + sendPreludeSize ≤ first.length)
    {pieces : List Bytes}
    (joined : pieces.flatten
      = (relay.dispatchOn circumstances peer (.ofReads reads) store).state.outbox.taken)
    (nonempty : ∀ piece ∈ pieces, piece ≠ []) :
    Mirrors relay circumstances store call sender
      (relay.dispatchOn circumstances peer (.ofReads reads) store).result
      (call.conclude (.ofReads pieces)) := by
  unfold Relay.dispatchOn at joined ⊢
  cases ready : ((relay.prepare circumstances).run
    ⟨store, Intake.start relay.packetSize (.ofReads reads), .empty⟩).result with
  | error cause =>
    rw [Relay.dispatch_of_unready peer ready, Relay.outbox_prepare] at joined
    have none : pieces = [] := by
      cases pieces with
      | nil => rfl
      | cons piece pieces =>
        exact absurd (List.append_eq_nil_iff.1 joined).1 (nonempty piece List.mem_cons_self)
    have unanswered : call.conclude (.ofReads pieces) = .error .noResponse := by
      rw [none, Call.conclude, Reception.receive_of_nothing]
      rfl
    rw [Relay.dispatch_of_unready peer ready]
    exact .of_silence cause unanswered
  | ok prepared =>
    have answered := Relay.dispatch_answered peer rfl ready
    obtain ⟨code, sent⟩ : ∃ code, ((relay.dispatch circumstances peer).run
        ⟨store, Intake.start relay.packetSize (.ofReads reads), .empty⟩).result = .ok code := by
      rw [Relay.dispatch, Action.run_bind, ready]
      exact Relay.finish_of_steady steady relay prepared
    rw [sent] at answered ⊢
    cases answered with
    | whole framing taken =>
    rw [taken] at joined
    -- the news that the request failed goes out in place of a reply without an encoding too
    by_cases generic : prepared.reply.outgoing = .genericError
    · rw [generic] at framing ⊢
      have received := receive_of_taken framing trivial joined nonempty
      exact .of_generic ((call.conclude_of_receive received).trans call.interpret_genericError)
    · have same := prepared.reply.outgoing_of_ne_genericError generic
      rw [same] at framing generic ⊢
      obtain failed | ⟨request, heard, replied⟩ := prepare_of_call packed division first ready
      · exact absurd failed generic
      have plain := replied.hasPlainNames visited.namedPlainly
      have received := receive_of_taken framing plain joined nonempty
      obtain ⟨answer, fields, meant⟩ := call.interpret_of_code (heard.fits replied)
      exact .of_reply heard replied fields ((call.conclude_of_receive received).trans meant)

/-- A client that is registered leaves a note for itself: the content comes in the second read, and
the response in two pieces, the first of them within the header. -/
theorem call_mirrors_dispatch_note :
    let registration := Visit.ofRequest .unregistered
      (.register "a" (List.replicate publicKeySize 7))
    let store := (Relay.standard.dispatchOn registration.circumstances .willing
      registration.incoming (Backend.memory .empty)).state.store
    let call := Call.sendMessage (.ofBytes [1]) .textMessage [42]
    let packets := (call.packets (.ofBytes [1])).toOption.getD []
    let out := Relay.standard.dispatchOn registration.circumstances .willing
      (.ofReads [packets.flatten.take 44, packets.flatten.drop 44]) store
    let given := call.conclude
      (.ofReads [out.state.outbox.taken.take 3, out.state.outbox.taken.drop 3])
    out.result = .ok .messageSent ∧ ∃ reply answer,
      Replies .standard registration.circumstances store (.ofBytes [1]) call.request reply ∧
        Answer.of? reply.response = some answer ∧ given = .ok answer := by
  intro registration store call packets
  have visited : Visited store :=
    .connection (.fresh .memory) .standard registration.circumstances .willing registration.incoming
  have packed : call.packets (.ofBytes [1]) = .ok packets := by decide +kernel
  have joined : ∀ (k : Nat) (bytes : Bytes), [bytes.take k, bytes.drop k].flatten = bytes := by simp
  have division : Division (max Relay.standard.packetSize requestHeaderSize) packets.flatten
      [packets.flatten.take 44, packets.flatten.drop 44] :=
    ⟨joined 44 packets.flatten, by decide +kernel, by decide +kernel⟩
  have mirrors := call_mirrors_dispatch visited .standard registration.circumstances
    Peer.steady_willing packed division (by decide +kernel) (joined 3 _) (by decide +kernel)
  obtain ⟨request, reply, answer, heard, replied, -, fields, given⟩ :=
    mirrors.success .messageSent (by decide +kernel) (by decide)
  obtain rfl := heard.eq_of_plain trivial
  exact ⟨by decide +kernel, reply, answer, replied, fields, given⟩

end Client

end MessageRelay
