import MessageRelay.Proofs.Service.Registration

/-!
# Names that their fields carry whole

A name ends at the first zero byte of its field, so a name with a zero byte would not come back from
the list of clients that it is sent in. None is ever registered: the name of a registration was read
from a field itself. So in every store that connections filled, the clients have plain names
(`Visited.namedPlainly`), and a reply of a handler can be read back (`hasPlainNames_of_handle`),
whichever router chose the handler.
-/

set_option autoImplicit false

namespace MessageRelay

namespace Protocol

/-- A registration that is read has a plain name. -/
theorem Request.hasPlainName_of_decodeBody {code : RequestCode} {body key : Bytes} {name : String}
    (h : decodeBody code body = .ok (.register name key)) : 0 ∉ Text.utf8 name := by
  obtain rfl : RequestCode.register = code := code_of_decodeBody h
  obtain ⟨-, name', read, -, -, same⟩ := decodeRegistration_eq_ok_iff.1 h
  cases same
  exact not_mem_utf8_of_decodeName read

end Protocol

namespace Store.Backend

/-- A sound store whose clients have names without zero bytes. -/
def NamedPlainly (store : Backend) : Prop :=
  ∃ roll, store.Enrols roll ∧ ∀ entry ∈ roll, 0 ∉ Text.utf8 entry.name

variable {store store' : Backend}

/-- A fresh store has no clients and so no names with zero bytes. -/
theorem Fresh.namedPlainly (fresh : store.Fresh) : store.NamedPlainly :=
  ⟨[], fresh.enrols, by simp⟩

/-- Noting that a client was seen changes no name. -/
theorem NamedPlainly.sighting (plain : store.NamedPlainly) {id : Protocol.ClientId}
    {now : Timestamp} (sighting : Sighting id now store store') : store'.NamedPlainly := by
  obtain ⟨roll, enrols, names⟩ := plain
  exact ⟨roll, enrols.sighting sighting, names⟩

/-- Opening a store again changes no name. -/
theorem NamedPlainly.restarted (plain : store.NamedPlainly) : store.restarted.NamedPlainly := by
  obtain ⟨roll, enrols, names⟩ := plain
  exact ⟨roll, enrols.restarted, names⟩

/-- The clients that are listed have names without zero bytes. -/
theorem NamedPlainly.mem_sorted (plain : store.NamedPlainly) {record : ClientRecord}
    (listed : record ∈ store.directory.sorted) : 0 ∉ Text.utf8 record.name := by
  obtain ⟨roll, enrols, names⟩ := plain
  have stored := (store.directory.mem_sorted record).1 listed
  exact names (.of record) ((enrols.mem_iff _).2 ⟨record, stored, rfl⟩)

end Store.Backend

namespace Protocol.RequestCode

/-- The code of the response that answers a request with a code. -/
def answer : RequestCode → ResponseCode
  | .register => .registered
  | .clientsList => .clientsList
  | .publicKey => .publicKey
  | .sendMessage => .messageSent
  | .unreadMessages => .unreadMessages

/-- No request is answered with a generic error when it succeeds. -/
theorem answer_ne_genericError (code : RequestCode) : code.answer ≠ .genericError := by
  cases code <;> decide

end Protocol.RequestCode

namespace Service

open Connection
open Protocol
open Store (Backend RelayStore)

variable {store : Backend} {circumstances : Circumstances}

/-- A handler answers the request that it gets, or fails. -/
theorem Handler.code_of_handle {handler : Handler} {occasion : Occasion} {request : Request}
    {reply : Reply} (h : ((handler.handle occasion request).run store).result = .ok reply) :
    reply.response.code = request.code.answer := by
  unfold handle at h
  split at h
  · rename_i name key
    have registering := registerClient_registering occasion name key store
    rw [h] at registering
    cases registering
    rfl
  · simp only [listClients, Action.run_bind, storing, Action.run_mapError, Backend.run_clients] at h
    cases h
    rfl
  · rw [run_lookUp] at h
    split at h
    · cases h
      rfl
    · cases h
  · rename_i target number content
    have leaving := leaveMessage_leaving occasion target number content store
    rw [h] at leaving
    cases leaving
    rfl
  · simp only [collect, Action.run_bind, storing, Action.run_mapError, Backend.run_unread] at h
    cases h
    rfl
  · cases h

/-- A handler replies with plain names over a store of plain names. -/
theorem Handler.hasPlainNames_of_handle {handler : Handler} {occasion : Occasion}
    {request : Request} {reply : Reply} (plain : store.NamedPlainly)
    (h : ((handler.handle occasion request).run store).result = .ok reply) :
    reply.response.HasPlainNames := by
  have code := code_of_handle h
  cases told : reply.response with
  | clientsList entries =>
    -- only the handler that lists the clients answers with a list of them
    cases request <;> rw [told] at code <;> cases code
    cases handler <;> try cases h
    simp only [handle, listClients, Action.run_bind, storing, Action.run_mapError,
      Backend.run_clients, mapError_ok, Action.run_pure] at h
    cases h
    cases told
    intro entry listed
    obtain ⟨record, other, rfl⟩ := List.mem_map.1 listed
    exact plain.mem_sorted (List.mem_filter.1 other).1
  | _ => trivial

/-! ## What connections leave -/

/-- Preparing a reply registers nobody with another name. -/
theorem namedPlainly_prepare {relay : Relay} {cycle : Cycle Backend}
    (plain : cycle.store.NamedPlainly) :
    ((relay.prepare circumstances).run cycle).state.store.NamedPlainly := by
  have preparation := relay.prepare_preparation circumstances cycle
  generalize ((relay.prepare circumstances).run cycle).result = result at preparation
  generalize ((relay.prepare circumstances).run cycle).state = prepared at preparation ⊢
  cases preparation with
  | badHeader | unknownCode => exact plain
  | turnedAway read known turned =>
    rw [turned.store_eq]
    exact plain
  | @ready header intake code handler checked seen _ _ read known routed admitted noted serving =>
    have sighting := admitted.sighting circumstances.now
    rw [noted] at sighting
    obtain ⟨roll, enrols, names⟩ := plain.sighting sighting
    cases serving with
    | badBody => exact ⟨roll, enrols, names⟩
    | @handled request _ out read' run =>
      have handling := Handler.handle_handling handler
        ⟨header.clientId, circumstances.now, circumstances.candidates⟩ request seen.state
      rw [show (handler.handle _ request).run seen.state = out from run] at handling
      obtain ⟨same, -⟩ | ⟨name, key, id, rfl, -, enrolled⟩ := enrols_handling handling enrols
      · exact ⟨roll, same, names⟩
      · obtain ⟨bytes, decoded⟩ := Intake.decodeBody_of_readBody (congrArg Prod.fst read')
        refine ⟨_, enrolled, fun entry listed => ?_⟩
        obtain listed | listed := List.mem_append.1 listed
        · exact names entry listed
        · rw [List.mem_singleton.1 listed]
          exact Request.hasPlainName_of_decodeBody decoded

/-- A connection lets no name with a zero byte into a store. -/
theorem namedPlainly_dispatchOn (relay : Relay) (circumstances : Circumstances) (peer : Peer)
    (incoming : Incoming) (plain : store.NamedPlainly) :
    (relay.dispatchOn circumstances peer incoming store).state.store.NamedPlainly := by
  have ready : ((relay.prepare circumstances).run
      ⟨store, Intake.start relay.packetSize incoming, .empty⟩).state.store.NamedPlainly :=
    namedPlainly_prepare plain
  rw [Relay.dispatchOn, Relay.dispatch, Action.run_bind]
  cases ((relay.prepare circumstances).run
    ⟨store, Intake.start relay.packetSize incoming, .empty⟩).result with
  | error cause => exact ready
  | ok prepared =>
    obtain ⟨roll, enrols, names⟩ := ready
    exact ⟨roll, enrols_finish circumstances.now enrols, names⟩

/-- A store that was unused at first, and that connections to relays and restarts have changed
since. -/
inductive Visited : Backend → Prop where
  | fresh {store : Backend} (fresh : store.Fresh) : Visited store
  | connection {store : Backend} (visited : Visited store) (relay : Relay)
      (circumstances : Circumstances) (peer : Peer) (incoming : Incoming) :
      Visited (relay.dispatchOn circumstances peer incoming store).state.store
  | restart {store : Backend} (visited : Visited store) : Visited store.restarted

/-- A store that only connections and restarts led to has no name with a zero byte. -/
theorem Visited.namedPlainly (visited : Visited store) : store.NamedPlainly := by
  induction visited with
  | fresh fresh => exact fresh.namedPlainly
  | connection _ relay circumstances peer incoming ih =>
    exact namedPlainly_dispatchOn relay circumstances peer incoming ih
  | restart _ ih => exact ih.restarted

end Service

end MessageRelay
