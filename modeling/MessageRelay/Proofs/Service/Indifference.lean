import MessageRelay.Proofs.Connection.ImmaterialBytes
import MessageRelay.Proofs.Service.Collection

/-!
# What connections are indifferent to

Connections on which bytes arrive that differ only where they are not looked at are served alike,
over every store and with every router: the same becomes of them, the same goes out, the same store
is left and the same notices are given (`dispatchOn_indifferent`). The one exception is the notice
about the header, which repeats the payload size that the header states, whatever it is
(`HeadersAlike`). All this holds also where the request cannot be read, since how it fails depends
on the lengths of what arrives.
-/

set_option autoImplicit false

namespace MessageRelay

namespace Connection.Intake

open Protocol

variable {left left' : Intake} {header header' : RequestHeader}

/-- The body of any request but a message has a size that is known beforehand. -/
theorem exists_bodySize {code : RequestCode} (fixed : code ≠ .sendMessage) :
    ∃ size, bodySize code = pure size := by
  cases code with
  | sendMessage => exact absurd rfl fixed
  | register | publicKey | clientsList | unreadMessages => exact ⟨_, rfl⟩

/-- Behind headers that were read alike the same body is read. -/
theorem fst_readBody_eq (alike : left.Alike False left')
    (same : SameMaterial (left.buffer ++ left.incoming.remaining)
      (left'.buffer ++ left'.incoming.remaining))
    (known : left.header? = some header) (known' : left'.header? = some header')
    (decoded : RequestHeader.decode left.buffer = .ok header) {code : RequestCode}
    (coded : RequestCode.ofNumber? header.code = some code) :
    ((readBody code).outcome left).1 = ((readBody code).outcome left').1 := by
  have named : namedCode? (left.buffer ++ left.incoming.remaining) = some code :=
    (namedCode?_of_decode decoded (List.prefix_append _ _)).trans coded
  by_cases message : code = .sendMessage
  · subst message
    have headed : requestHeaderSize ≤ left.buffer.length := RequestHeader.length_of_decode decoded
    have bodies := same.drop_header named
    rw [List.drop_append_of_le_length headed,
      List.drop_append_of_le_length (alike.length ▸ headed)] at bodies
    obtain ⟨kept, others⟩ := List.append_inj bodies (by simp only [List.length_drop, alike.length])
    have equal := alike.shape.eq_of_remaining others
    exact fst_readBody_of_same { alike with same := fun _ => ⟨headed, equal, kept⟩ } known known' _
  · obtain ⟨size, sized⟩ := exists_bodySize message
    exact fst_readBody_of_front alike known known' sized fun _ _ kept front front' =>
      same.decode_body kept front front' named message

end Connection.Intake

namespace Service

open Connection
open Log (Notice)
open Protocol
open Store (Backend RelayStore)

variable {packetSize : Nat} {incoming incoming' : Incoming}

/-- What there is to say about the headers of two connections: nothing on either, or the same but for
the version, which is not mentioned, and the payload size. -/
inductive HeadersAlike : List Notice → List Notice → Prop where
  | unread : HeadersAlike [] []
  | read {header header' : RequestHeader} (client : header'.clientId = header.clientId)
      (code : header'.code = header.code) (received : Nat) :
      HeadersAlike [Cycle.headerNotice header received] [Cycle.headerNotice header' received]

/-- The same is read off two connections whose bytes differ only where they are not looked at. -/
theorem readAlike_start (packetSize : Nat) (shape : incoming.SameShape incoming')
    (same : SameMaterial incoming.remaining incoming'.remaining) :
    ReadAlike HeadersAlike (fun _ _ => True) (Intake.start packetSize incoming)
      (Intake.start packetSize incoming') := by
  have outcome := Intake.outcome_readHeader_of_unknown
    (show (Intake.start packetSize incoming).header? = none from rfl)
  have outcome' := Intake.outcome_readHeader_of_unknown
    (show (Intake.start packetSize incoming').header? = none from rfl)
  -- only the first read can tell a header, and it brings as many bytes on both
  have reads := shape.read (max packetSize requestHeaderSize)
  cases read : incoming.read (max packetSize requestHeaderSize) with
  | mk found rest =>
  cases read' : incoming'.read (max packetSize requestHeaderSize) with
  | mk found' rest' =>
  simp only [Intake.start, read, read', List.nil_append] at outcome outcome'
  rw [read, read'] at reads
  cases reads with
  | failed others => exact .noHeader outcome outcome' .unread trivial
  | @found bytes bytes' _ _ length others =>
    rw [Incoming.remaining_of_read read, Incoming.remaining_of_read read'] at same
    have headers := same.decode_header length (List.prefix_append _ _) (List.prefix_append _ _)
    simp only at outcome outcome'
    cases decoded : RequestHeader.decode bytes with
    | error cause =>
      rw [decoded] at headers outcome
      generalize RequestHeader.decode bytes' = decoded' at headers outcome'
      cases headers
      exact .noHeader outcome outcome' .unread trivial
    | ok header =>
      rw [decoded] at headers outcome
      generalize RequestHeader.decode bytes' = decoded' at headers outcome'
      cases headers with
      | @ok _ header' client code =>
        let left : Intake := { Intake.start packetSize rest with
          buffer := bytes
          header? := some header }
        let left' : Intake := { Intake.start packetSize rest' with
          buffer := bytes'
          header? := some header' }
        have alike : left.Alike False left' := ⟨rfl, length, others, False.elim⟩
        have news : HeadersAlike (Cycle.headerNews (Intake.start packetSize incoming) header left)
            (Cycle.headerNews (Intake.start packetSize incoming') header' left') := by
          simp only [Cycle.headerNews, Intake.start, left, left', length]
          exact .read client code _
        exact .header outcome outcome' news client code trivial fun _ coded =>
          ⟨Intake.fst_readBody_eq alike same rfl rfl decoded coded, trivial⟩

variable {σ : Type} [RelayStore σ]

/-- Bytes that are not looked at make no difference to a connection, whatever the store, the router,
the clock, the candidates and the writes are: not to what becomes of it, nor to what goes out, nor to
the store that it leaves, nor to what is noted behind the notice about the header. -/
theorem dispatchOn_indifferent (relay : Relay) (circumstances : Circumstances) (peer : Peer)
    (store : σ) (shape : incoming.SameShape incoming')
    (same : SameMaterial incoming.remaining incoming'.remaining) :
    let out := relay.dispatchOn circumstances peer incoming store
    let out' := relay.dispatchOn circumstances peer incoming' store
    out.result = out'.result ∧ out.state.outbox = out'.state.outbox ∧
      out.state.store = out'.state.store ∧
      ∃ news news' rest, HeadersAlike news news' ∧ out.notices = news ++ rest ∧
        out'.notices = news' ++ rest := by
  intro out out'
  have like {ε α : Type} (action : Action σ ε α) : Action.Alike Eq action action := by
    rintro s _ rfl
    exact ⟨rfl, rfl, rfl⟩
  have stores (client : ClientId) : StoresAlike (Eq : σ → σ → Prop) client := {
    hasId := fun _ => like _
    hasName := fun _ => like _
    insertClient := fun _ _ _ _ => like _
    clients := like _
    publicKey := fun _ => like _
    idByName := fun _ => like _
    updateLastSeen := fun _ _ => like _
    insertMessage := fun _ _ _ => like _
    unread := fun _ => like _ }
  have alike : out.AlikeBehind HeadersAlike (Cycle.Related (fun _ _ => True) Eq) out' :=
    Relay.related_dispatch relay circumstances peer stores (fun _ => like _)
      ⟨rfl, readAlike_start relay.packetSize shape same, rfl⟩
  exact ⟨alike.result, alike.states.outbox, alike.states.store, alike.notices⟩

/-- A client that looks a neighbour up is answered the same if its request states another version and
another size, and has other bytes behind the name and behind its end. -/
theorem dispatchOn_indifferent_lookup :
    let lookup := Visit.ofRequest (.ofBytes [1]) (.publicKey "b")
    let plain := lookup.incoming.remaining ++ [0]
    let garbled := (((plain.set 16 9).set 19 7).set 30 65).set 278 5
    let served (bytes : Bytes) := Relay.standard.dispatchOn lookup.circumstances lookup.peer
      [.chunk bytes] (neighbours (.memory .empty))
    plain ≠ garbled ∧ (served plain).result = .ok .publicKey ∧
      (served plain).result = (served garbled).result ∧
      (served plain).state.outbox = (served garbled).state.outbox ∧
      (served plain).state.store = (served garbled).state.store := by
  intro lookup plain garbled served
  have named : namedCode? plain = some .publicKey := by decide +kernel
  have ended : 0 ∈ (plain.take 30).drop requestHeaderSize := by decide +kernel
  have material : SameMaterial plain garbled := by
    intro place looked
    have other (changed : Nat) (immaterial : Immaterial plain changed) : changed ≠ place :=
      fun here => looked (here ▸ immaterial)
    have version := other 16 (.version rfl)
    have payloadSize := other 19 (.payloadSize (by decide) (by decide))
    have behindName := other 30 (.behindName named (.inr rfl) (by decide) (by decide) ended)
    have width : (Demand.body .publicKey).needed plain = 278 := rfl
    have fixed : RequestCode.publicKey ≠ .sendMessage := by decide
    have behindBody := other 278 (.behindBody named fixed (Nat.le_of_eq width))
    rw [List.getElem?_set_ne behindBody, List.getElem?_set_ne behindName,
      List.getElem?_set_ne payloadSize, List.getElem?_set_ne version]
  have shape : Incoming.SameShape [.chunk plain] [.chunk garbled] :=
    .chunk (by simp only [garbled, List.length_set]) .nil
  obtain ⟨result, outbox, store, -⟩ := dispatchOn_indifferent Relay.standard lookup.circumstances
    lookup.peer (neighbours (.memory .empty)) shape
    (by simpa only [Incoming.remaining, List.flatMap_singleton] using material)
  refine ⟨by decide +kernel, by decide +kernel, ?_⟩
  simp only [served]
  exact ⟨result, outbox, store⟩

end Service

end MessageRelay
