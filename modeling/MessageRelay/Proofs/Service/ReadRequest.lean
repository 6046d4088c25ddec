import MessageRelay.Proofs.Connection.Readings
import MessageRelay.Proofs.Protocol.BodyGrammar
import MessageRelay.Proofs.Protocol.Packets
import MessageRelay.Proofs.Service.Handling
import MessageRelay.Proofs.Service.Visit

/-!
# The request of a connection

What a connection asks for is the request that is read off it, with the client that its header
names. A request that was encoded is read off any reads that bring it whole
(`request?_of_division`). With the standard router the handler of a request is its own, so what is
read decides, together with the store, which reply gets ready (`ready_of_request`).
-/

set_option autoImplicit false

namespace MessageRelay

namespace Protocol.Request

/-- A registration that is read has a name and a key that the directory takes. -/
theorem checkFields_of_decodeBody {code : RequestCode} {body key : Bytes} {name : String}
    (h : decodeBody code body = .ok (.register name key)) :
    Store.Directory.checkFields name key = .ok () := by
  obtain rfl : RequestCode.register = code := code_of_decodeBody h
  obtain ⟨whole, name', -, named, short, same⟩ := decodeRegistration_eq_ok_iff.1 h
  cases same
  exact Store.Directory.checkFields_eq_ok_iff.2 ⟨named, short, length_slice_key whole⟩

end Protocol.Request

namespace Connection

open Protocol

/-- Two steps in a row succeed only if both do, the second one from where the first one stopped. -/
theorem Assembling.outcome_bind_eq_ok {α β : Type} {step : Assembling α} {next : α → Assembling β}
    {intake intake' : Intake} {b : β} (h : (step >>= next).outcome intake = (.ok b, intake')) :
    ∃ a middle, step.outcome intake = (.ok a, middle) ∧
      (next a).outcome middle = (.ok b, intake') := by
  rw [outcome_bind] at h
  generalize step.outcome intake = first at h ⊢
  obtain ⟨result, middle⟩ := first
  cases result with
  | error e => cases h
  | ok a => exact ⟨a, middle, rfl, h⟩

/-- Only what is decoded well is given. -/
theorem Intake.eq_ok_of_outcome_lift {α : Type} {result : Except WireError α} {a : α}
    {intake intake' : Intake} (h : (lift result).outcome intake = (.ok a, intake')) :
    result = .ok a := by
  cases result with
  | error cause => cases h
  | ok b =>
    cases h
    rfl

end Connection

namespace Connection.Intake

open Protocol

variable {intake intake' : Intake}

/-- The header that was read is known from then on. -/
theorem header?_of_readHeader {header : RequestHeader}
    (h : readHeader.outcome intake = (.ok header, intake')) : intake'.header? = some header := by
  obtain ⟨made, opening⟩ := intake.exists_opening
  rw [h] at opening
  exact opening.header?_of_ok

/-- The header of a request is read off the first read. -/
theorem read_of_readHeader {packetSize : Nat} {incoming : Incoming} {header : RequestHeader}
    (h : readHeader.outcome (start packetSize incoming) = (.ok header, intake')) :
    ∃ bytes rest, incoming.read (start packetSize incoming).room = (.ok bytes, rest) ∧
      RequestHeader.decode bytes = .ok header := by
  obtain ⟨made, opening⟩ := (start packetSize incoming).exists_opening
  rw [h] at opening
  cases opening with
  | known known => cases known
  | read unknown read decoded => exact ⟨_, _, read, decoded⟩

/-- Once the header is read, the body is read from where that stopped. -/
theorem readBody_of_readHeader {header : RequestHeader}
    (h : readHeader.outcome intake = (.ok header, intake')) (code : RequestCode) :
    (readBody code).outcome intake = (readBody code).outcome intake' := by
  rw [readBody, Assembling.outcome_bind, Assembling.outcome_bind, h,
    outcome_readHeader_of_known (header?_of_readHeader h)]

/-- A request that is read off a connection is decoded from a body. -/
theorem decodeBody_of_readBody {code : RequestCode} {request : Request}
    (h : ((readBody code).outcome intake).1 = .ok request) :
    ∃ body, Request.decodeBody code body = .ok request := by
  obtain ⟨_, _, -, h⟩ := Assembling.outcome_bind_eq_ok (Prod.ext h rfl)
  obtain ⟨_, _, -, h⟩ := Assembling.outcome_bind_eq_ok h
  obtain ⟨_, _, -, h⟩ := Assembling.outcome_bind_eq_ok h
  obtain ⟨last, _, -, h⟩ := Assembling.outcome_bind_eq_ok h
  exact ⟨last.buffer.drop requestHeaderSize, eq_ok_of_outcome_lift h⟩

end Connection.Intake

namespace Service

open Connection
open Protocol
open Store (Backend RelayStore)

/-- The client that a connection names, and the request that is read off it. -/
def Visit.request? (packetSize : Nat) (visit : Visit) : Option (ClientId × Request) :=
  match Intake.readHeader.outcome (Intake.start packetSize visit.incoming) with
  | (.error _, _) => none
  | (.ok header, intake) =>
    match RequestCode.ofNumber? header.code with
    | none => none
    | some code =>
      match ((Intake.readBody code).outcome intake).1 with
      | .ok request => some (header.clientId, request)
      | .error _ => none

/-- What is read on the way to a request. -/
structure ReadOff (packetSize : Nat) (visit : Visit) (sender : ClientId) (request : Request)
    (header : RequestHeader) (intake : Intake) : Prop where
  read : Intake.readHeader.outcome (Intake.start packetSize visit.incoming) = (.ok header, intake)
  named : header.clientId = sender
  known : RequestCode.ofNumber? header.code = some request.code
  body : ((Intake.readBody request.code).outcome intake).1 = .ok request

/-- A visitor asks for something exactly if a header and behind it a body are read off the
connection. -/
theorem Visit.request?_eq_some_iff {packetSize : Nat} {visit : Visit} {sender : ClientId}
    {request : Request} :
    visit.request? packetSize = some (sender, request) ↔
      ∃ header intake, ReadOff packetSize visit sender request header intake := by
  constructor
  · intro h
    unfold request? at h
    split at h
    · cases h
    rename_i header intake read
    split at h
    · cases h
    rename_i code known
    split at h
    · rename_i other body
      cases h
      obtain ⟨bytes, decoded⟩ := Intake.decodeBody_of_readBody body
      obtain rfl := Request.code_of_decodeBody decoded
      exact ⟨header, intake, read, rfl, known, body⟩
    · cases h
  · rintro ⟨header, intake, read, rfl, known, body⟩
    simp only [request?, read, known, body]

/-- A request that was encoded is read off any reads that bring it whole and its header with the
first of them; the content of a message has to survive what is dropped behind its prelude. -/
theorem request?_of_division {packetSize : Nat} {visit : Visit} {sender : ClientId}
    {request : Request} {encoded padding : Bytes} {reads : List Bytes}
    (he : request.encode sender = .ok encoded) (plain : request.HasPlainName)
    (brought : visit.incoming = .ofReads reads)
    (division : Division (max packetSize requestHeaderSize) (encoded ++ padding) reads)
    (first : ∀ first ∈ reads.head?, requestHeaderSize ≤ first.length)
    (kept : KeepsContent padding reads request) :
    visit.request? packetSize = some (sender, request) := by
  have body := (readBody_eq_ok_iff packetSize sender request encoded padding reads he plain division
    first).2.2 kept
  obtain ⟨header, content, -, named, coded, -, rfl⟩ := Request.encode_eq_ok he
  rw [List.append_assoc] at division
  obtain ⟨kept_, later, rfl⟩ := exists_kept division first
  have read := Intake.outcome_readHeader packetSize (header.encode ++ kept_) later header
    (division.fits _ List.mem_cons_self) (RequestHeader.decode_encode header kept_)
  rw [← brought] at read body
  rw [Intake.readBody_of_readHeader read] at body
  refine Visit.request?_eq_some_iff.2 ⟨header, _, read, named, ?_, body⟩
  rw [coded, RequestCode.ofNumber?_number]

/-- A request that was encoded is read off reads that are as long as they can be, if one of them has
room for a prelude. -/
theorem request?_of_cut {packetSize : Nat} {visit : Visit} {sender : ClientId} {request : Request}
    {encoded : Bytes} (he : request.encode sender = .ok encoded) (plain : request.HasPlainName)
    (room : requestHeaderSize + sendPreludeSize ≤ packetSize)
    (brought : visit.incoming = .ofReads (Framing.cut packetSize encoded)) :
    visit.request? packetSize = some (sender, request) := by
  obtain ⟨body, hb, -, written⟩ := Request.encode_eq_header he
  have size : encoded.length = requestHeaderSize + request.bodySize := by
    rw [written, List.length_append, RequestHeader.length_encode, Request.length_of_encodeBody hb]
  have positive : 0 < packetSize := by
    simp only [requestHeaderSize] at room
    omega
  have cut : Framing.cut packetSize encoded
      = encoded.take packetSize :: Framing.cut packetSize (encoded.drop packetSize) := by
    have filled : ¬ (encoded.isEmpty ∨ packetSize = 0) := by
      rw [List.isEmpty_iff, ← List.length_eq_zero_iff]
      simp only [requestHeaderSize] at size
      omega
    rw [Framing.cut, if_neg filled]
  have division : Division (max packetSize requestHeaderSize) (encoded ++ [])
      (Framing.cut packetSize encoded) := by
    refine ⟨by rw [Framing.flatten_cut positive, List.append_nil], ?_, ?_⟩
    · exact fun read brings => (Framing.bounds_of_mem_cut brings).1
    · intro read brings
      exact Nat.le_trans (Framing.bounds_of_mem_cut brings).2 (Nat.le_max_left _ _)
  refine request?_of_division he plain brought division ?_ ?_
  · intro first brings
    rw [cut, List.head?_cons, Option.mem_some_iff] at brings
    rw [← brings, List.length_take]
    omega
  · cases request with
    | sendMessage target type content =>
      have complete : requestHeaderSize + sendPreludeSize - (encoded.take packetSize).length = 0 := by
        rw [List.length_take, size, Request.bodySize]
        omega
      rw [KeepsContent, cut, droppedBehindPrelude, complete, overrun, List.drop_zero]
      exact List.prefix_append _ _
    | register | clientsList | publicKey | unreadMessages => exact trivial

/-! ## With the standard router -/

/-- The standard router has a handler for every code. -/
theorem find?_standard (code : RequestCode) : Table.find? code Router.standard = some code := by
  cases code <;> rfl

/-- A connection before anything was read from it. -/
def Visit.begin (packetSize : Nat) (visit : Visit) (store : Backend) : Cycle Backend where
  store := store
  intake := Intake.start packetSize visit.incoming
  outbox := .empty

/-- What a handler finds around the request of a connection. -/
def Visit.occasion (visit : Visit) (sender : ClientId) : Occasion where
  sender := sender
  now := visit.circumstances.now
  candidates := visit.circumstances.candidates

/-- The request that is read off a connection is handled by its own handler, over the store with its
sender noted, if it may come from its sender. -/
theorem ready_of_request {packetSize : Nat} {visit : Visit} {sender : ClientId}
    {request : Request} {store : Backend} (asked : visit.request? packetSize = some (sender, request))
    (admitted : request.code = .register ∨ store.directory.hasId sender = true) :
    let noted := ((RelayStore.updateLastSeen sender visit.circumstances.now).run store).state
    let handled := (Handler.handle request.code (visit.occasion sender) request).run noted
    let ready := ((Relay.ofPacketSize packetSize).prepare visit.circumstances).run
      (visit.begin packetSize store)
    ready.result = .ok { code := request.code, sender, reply := .ofResult handled.result } ∧
      ready.state.store = handled.state := by
  intro noted handled ready
  obtain ⟨header, intake, read, rfl, known, body⟩ := Visit.request?_eq_some_iff.1 asked
  have preparation := (Relay.ofPacketSize packetSize).prepare_preparation visit.circumstances
    (visit.begin packetSize store)
  change Relay.Preparation _ _ _ ready.result ready.state at preparation
  generalize ready.state = left_ at preparation ⊢
  generalize ready.result = result at preparation ⊢
  cases preparation with
  | badHeader read' => cases read.symm.trans read'
  | unknownCode read' unserved =>
    cases read.symm.trans read'
    have none := unserved _ known
    rw [Relay.ofPacketSize, find?_standard] at none
    cases none
  | turnedAway read' known' turned =>
    cases read.symm.trans read'
    cases known.symm.trans known'
    obtain ⟨serves, stranger⟩ := turned.stranger_of
    rw [Visit.begin] at stranger
    cases (admitted.resolve_left serves).symm.trans stranger
  | ready read' known' routed admitted' noted' serving =>
    cases read.symm.trans read'
    cases known.symm.trans known'
    rw [Relay.ofPacketSize, find?_standard] at routed
    cases routed
    have same := admitted'.store_eq
    subst same noted'
    cases serving with
    | badBody read'' => cases body.symm.trans (congrArg Prod.fst read'')
    | handled read'' run =>
      cases body.symm.trans (congrArg Prod.fst read'')
      subst run
      exact ⟨rfl, rfl⟩

/-- Noting the sender is all that a store sees of a request before its handler. -/
theorem prepare_of_request {packetSize : Nat} {visit : Visit} {sender : ClientId}
    {request : Request} {store : Backend} (asked : visit.request? packetSize = some (sender, request))
    (admitted : request.code = .register ∨ store.directory.hasId sender = true) :
    ∃ noted, Backend.Sighting sender visit.circumstances.now store noted ∧
      (((Relay.ofPacketSize packetSize).prepare visit.circumstances).run
        (visit.begin packetSize store)).result
        = .ok {
          code := request.code
          sender
          reply := .ofResult ((Handler.handle request.code (visit.occasion sender) request).run
            noted).result } :=
  ⟨_, Backend.sighting sender visit.circumstances.now store, (ready_of_request asked admitted).1⟩

end Service

end MessageRelay
