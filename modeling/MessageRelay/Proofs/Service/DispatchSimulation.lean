import MessageRelay.Proofs.ActionSimulation
import MessageRelay.Service.Dispatch

/-!
# Stores that are served alike

If every operation of two types of stores is alike, then connections are served alike over them: the
same responses go out and the same notices are given, and the stores stay connected. A handler
takes in messages only from the client that the header of the request names, so this is the only
client from which taking in a message has to be alike. Messages are removed only once the response
is out.
-/

set_option autoImplicit false

namespace MessageRelay.Service

open Connection
open Log (Notice)
open Protocol
open Store (RelayStore StoreError)

variable {σ τ α : Type}

/-- Stores on which the operations that serve a client, all but the removal of messages, are
alike. -/
structure StoresAlike [RelayStore σ] [RelayStore τ] (S : σ → τ → Prop) (client : ClientId) :
    Prop where
  hasId : ∀ id, Action.Alike S (RelayStore.hasId id) (RelayStore.hasId id)
  hasName : ∀ name, Action.Alike S (RelayStore.hasName name) (RelayStore.hasName name)
  insertClient : ∀ id name key now,
    Action.Alike S (RelayStore.insertClient id name key now)
      (RelayStore.insertClient id name key now)
  clients : Action.Alike S RelayStore.clients RelayStore.clients
  publicKey : ∀ name, Action.Alike S (RelayStore.publicKey name) (RelayStore.publicKey name)
  idByName : ∀ name, Action.Alike S (RelayStore.idByName name) (RelayStore.idByName name)
  updateLastSeen : ∀ id now,
    Action.Alike S (RelayStore.updateLastSeen id now) (RelayStore.updateLastSeen id now)
  insertMessage : ∀ target type content,
    Action.Alike S (RelayStore.insertMessage target client type content)
      (RelayStore.insertMessage target client type content)
  unread : ∀ target, Action.Alike S (RelayStore.unread target) (RelayStore.unread target)

/-! ## Handlers -/

namespace Handler

variable {S : σ → τ → Prop} {client : ClientId}

/-- Operations of stores that run alike do so within handlers. -/
theorem alike_storing {action : Action σ StoreError α} {action' : Action τ StoreError α}
    (h : Action.Alike S action action') : Action.Alike S (storing action) (storing action') :=
  Action.alike_mapError _ h

variable [RelayStore σ] [RelayStore τ]

/-- A free identifier is looked for alike. -/
theorem alike_freshId (h : StoresAlike S client) (candidates : List ClientId) :
    Action.Alike S (freshId candidates) (freshId candidates) := by
  induction candidates with
  | nil => exact Action.alike_fail _
  | cons candidate candidates ih =>
    apply Action.alike_bind (alike_storing (h.hasId candidate))
    intro taken
    cases taken with
    | false => exact Action.alike_pure _
    | true => exact ih

/-- A client is registered alike. -/
theorem alike_registerClient (h : StoresAlike S client) (occasion : Occasion) (name : String)
    (key : Bytes) :
    Action.Alike S (registerClient occasion name key) (registerClient occasion name key) := by
  apply Action.alike_bind (alike_storing (h.hasName name))
  intro taken
  cases taken with
  | true => exact Action.alike_fail _
  | false =>
    apply Action.alike_bind (alike_freshId h occasion.candidates)
    intro id
    apply Action.alike_bind (alike_storing (h.insertClient id name key occasion.now))
    intro inserted
    cases inserted with
    | true => exact Action.alike_bind (Action.alike_tell _) fun _ => Action.alike_pure _
    | false => exact Action.alike_fail _

/-- A client is looked up alike. -/
theorem alike_lookUp (h : StoresAlike S client) (name : String) :
    Action.Alike S (lookUp name) (lookUp name) := by
  apply Action.alike_bind (alike_storing (h.idByName name))
  intro id?
  apply Action.alike_bind (alike_storing (h.publicKey name))
  intro key?
  cases id? with
  | none => exact Action.alike_fail _
  | some id =>
    cases key? with
    | none => exact Action.alike_fail _
    | some key => exact Action.alike_pure _

/-- A message is left alike. -/
theorem alike_leaveMessage (occasion : Occasion) (h : StoresAlike S occasion.sender)
    (target : ClientId) (number : UInt8) (content : Bytes) :
    Action.Alike S (leaveMessage occasion target number content)
      (leaveMessage occasion target number content) := by
  unfold leaveMessage
  cases MessageType.ofNumber? number with
  | none => exact Action.alike_fail _
  | some type =>
    apply Action.alike_bind (alike_storing (h.hasId target))
    intro known
    cases known with
    | false => exact Action.alike_fail _
    | true =>
      apply Action.alike_bind (alike_storing (h.insertMessage target type content))
      intro id
      exact Action.alike_bind (Action.alike_tell _) fun _ => Action.alike_pure _

/-- Handlers serve requests alike. -/
theorem alike_handle (handler : Handler) (occasion : Occasion)
    (h : StoresAlike S occasion.sender) (request : Request) :
    Action.Alike S (handler.handle occasion request) (handler.handle occasion request) := by
  unfold handle
  split
  · exact alike_registerClient h occasion _ _
  · exact Action.alike_bind (alike_storing h.clients) fun _ =>
      Action.alike_bind (Action.alike_tell _) fun _ => Action.alike_pure _
  · exact alike_lookUp h _
  · exact alike_leaveMessage occasion h _ _ _
  · exact Action.alike_bind (alike_storing (h.unread occasion.sender)) fun _ =>
      Action.alike_bind (Action.alike_tell _) fun _ => Action.alike_pure _
  · exact Action.alike_fail _

end Handler

/-! ## Connections -/

/-- Connections with the same outbox, and with intakes and stores that relations connect. -/
structure Cycle.Related (I : Intake → Intake → Prop) (S : σ → τ → Prop) (cycle : Cycle σ)
    (cycle' : Cycle τ) : Prop where
  store : S cycle.store cycle'.store
  intake : I cycle.intake cycle'.intake
  outbox : cycle.outbox = cycle'.outbox

/-- Connections that differ at most in stores that a relation connects. -/
structure Cycle.Alike (S : σ → τ → Prop) (cycle : Cycle σ) (cycle' : Cycle τ) : Prop where
  store : S cycle.store cycle'.store
  intake : cycle.intake = cycle'.intake
  outbox : cycle.outbox = cycle'.outbox

namespace Cycle

variable {I : Intake → Intake → Prop} {S : σ → τ → Prop} {ε : Type}

/-- Connections are alike if they are related with the same intake. -/
theorem alike_eq_related (S : σ → τ → Prop) : Cycle.Alike S = Related Eq S := by
  funext cycle cycle'
  exact propext ⟨fun h => ⟨h.store, h.intake, h.outbox⟩, fun h => ⟨h.store, h.intake, h.outbox⟩⟩

/-- Operations of stores that run alike do so on related connections. -/
theorem related_storing {action : Action σ ε α} {action' : Action τ ε α}
    (h : Action.Alike S action action') :
    Action.Alike (Related I S) (storing action) (storing action') := by
  intro cycle cycle' hc
  have out := h cycle.store cycle'.store hc.store
  exact ⟨out.result, out.notices, out.states, hc.intake, hc.outbox⟩

/-- A step on the outbox runs alike on related connections, which have the same one. -/
theorem related_writing (step : Outbox → Except SendError α × Outbox) :
    Action.Alike (Related I S) (writing step) (writing step) := by
  rintro ⟨store, intake, outbox⟩ ⟨store', intake', _⟩ ⟨hs, hi, rfl⟩
  exact ⟨rfl, rfl, hs, hi, rfl⟩

/-- A response is sent alike on related connections. -/
theorem related_sending (peer : Peer) (packetSize : Nat) (response : Response) :
    Action.Alike (Related I S) (sending peer packetSize response)
      (sending peer packetSize response) := by
  apply Action.alike_bind (related_writing _)
  intro written
  exact Action.alike_bind (Action.alike_tell _) fun _ => Action.alike_pure _

end Cycle

/-- Intakes off which the same is read: the same reason why there is no header, or headers that name
the same client and the same code, and behind them the same request. What there is to say about the
headers is connected by a relation, and what is left of the intakes after that by another. -/
inductive ReadAlike (N : List Notice → List Notice → Prop) (J : Intake → Intake → Prop)
    (intake intake' : Intake) : Prop where
  | noHeader {cause : ReadError} {left left' : Intake}
      (read : Intake.readHeader.run.run intake = (.error cause, left))
      (read' : Intake.readHeader.run.run intake' = (.error cause, left'))
      (silent : N [] []) (rest : J left left')
  | header {header header' : RequestHeader} {left left' : Intake}
      (read : Intake.readHeader.run.run intake = (.ok header, left))
      (read' : Intake.readHeader.run.run intake' = (.ok header', left'))
      (news : N (Cycle.headerNews intake header left) (Cycle.headerNews intake' header' left'))
      (client : header'.clientId = header.clientId) (code : header'.code = header.code)
      (rest : J left left')
      (body : ∀ code, RequestCode.ofNumber? header.code = some code →
        ((Intake.readBody code).run.run left).1 = ((Intake.readBody code).run.run left').1 ∧
          J ((Intake.readBody code).run.run left).2 ((Intake.readBody code).run.run left').2)

/-- Off one intake the same is read each time, with the same to say about the header. -/
theorem ReadAlike.refl (intake : Intake) : ReadAlike Eq Eq intake intake := by
  cases read : Intake.readHeader.run.run intake with
  | mk result left =>
    cases result with
    | error cause => exact .noHeader read read rfl rfl
    | ok header => exact .header read read rfl rfl rfl rfl fun _ _ => ⟨rfl, rfl⟩

namespace Relay

variable {N : List Notice → List Notice → Prop} {I J : Intake → Intake → Prop}
variable {S : σ → τ → Prop} {client : ClientId}

/-- The client that the header of a request names, if the connection brings a header. -/
def callerOf (intake : Intake) : Option ClientId :=
  match (Intake.readHeader.run.run intake).1 with
  | .ok header => some header.clientId
  | .error _ => none

/-- Once a header is read, the caller is the client that it names. -/
theorem callerOf_eq_some {cycle : Cycle σ} {header : RequestHeader}
    (h : (Cycle.readingHeader.run cycle).result = .ok header) :
    callerOf cycle.intake = some header.clientId := by
  rw [Cycle.result_readingHeader] at h
  rw [callerOf, h]

/-! ### Steps that read nothing -/

/-- A reply is answered with alike on related connections. -/
theorem related_answer (relay : Relay) (peer : Peer) (code : RequestCode) (sender : ClientId)
    (reply : Reply) :
    Action.Alike (Cycle.Related I S) (relay.answer peer code sender reply)
      (relay.answer peer code sender reply) := by
  apply Action.alike_bind (Action.alike_attempt (Cycle.related_sending _ _ _))
  intro sent
  match sent with
  | .ok _ => exact Action.alike_pure _
  | .error (.notEncoded cause) =>
    apply Action.alike_bind (Action.alike_tell _)
    intro _
    apply Action.alike_bind (Action.alike_mapError _ (Cycle.related_sending _ _ _))
    intro _
    exact Action.alike_pure _
  | .error .stalled => exact Action.alike_fail _
  | .error (.socket fault) => exact Action.alike_fail _

/-- A reply is answered with alike on connections with the same intake. -/
theorem alike_answer (relay : Relay) (peer : Peer) (code : RequestCode) (sender : ClientId)
    (reply : Reply) :
    Action.Alike (Cycle.Alike S) (relay.answer peer code sender reply)
      (relay.answer peer code sender reply) :=
  Cycle.alike_eq_related S ▸ related_answer relay peer code sender reply

variable [RelayStore σ] [RelayStore τ]

/-- The sender is checked alike on related connections if it is looked for alike. -/
theorem related_checkSender (code : RequestCode) (sender : ClientId)
    (h : Action.Alike S (RelayStore.hasId sender) (RelayStore.hasId sender)) :
    Action.Alike (Cycle.Related I S) (checkSender code sender) (checkSender code sender) := by
  unfold checkSender
  split
  · apply Action.alike_bind (Action.alike_mapError _ (Cycle.related_storing h))
    intro known
    cases known with
    | false => exact Action.alike_fail _
    | true => exact Action.alike_pure _
  · exact Action.alike_pure _

/-- The sender is checked alike on connections with the same intake if it is looked for alike. -/
theorem alike_checkSender (code : RequestCode) (sender : ClientId)
    (h : Action.Alike S (RelayStore.hasId sender) (RelayStore.hasId sender)) :
    Action.Alike (Cycle.Alike S) (checkSender code sender) (checkSender code sender) :=
  Cycle.alike_eq_related S ▸ related_checkSender code sender h

/-- That the sender was seen is noted alike on related connections if the stores note it alike. -/
theorem related_noteSender (sender : ClientId) (now : Timestamp)
    (h : Action.Alike S (RelayStore.updateLastSeen sender now)
      (RelayStore.updateLastSeen sender now)) :
    Action.Alike (Cycle.Related I S) (noteSender sender now) (noteSender sender now) := by
  apply Action.alike_bind (Action.alike_attempt (Cycle.related_storing h))
  intro seen
  cases seen with
  | ok _ => exact Action.alike_pure _
  | error e => exact Action.alike_tell _

/-- That the sender was seen is noted alike on connections with the same intake if the stores note
it alike. -/
theorem alike_noteSender (sender : ClientId) (now : Timestamp)
    (h : Action.Alike S (RelayStore.updateLastSeen sender now)
      (RelayStore.updateLastSeen sender now)) :
    Action.Alike (Cycle.Alike S) (noteSender sender now) (noteSender sender now) :=
  Cycle.alike_eq_related S ▸ related_noteSender sender now h

/-- Delivered messages are removed alike on related connections if the stores remove each of them
alike. -/
theorem related_removeDelivered
    (h : ∀ id, Action.Alike S (RelayStore.deleteMessage id) (RelayStore.deleteMessage id))
    (client : ClientId) (ids : List UInt32) :
    Action.Alike (Cycle.Related I S) (removeDelivered client ids) (removeDelivered client ids) := by
  induction ids with
  | nil => exact Action.alike_pure _
  | cons id ids ih =>
    apply Action.alike_bind (Action.alike_attempt (Cycle.related_storing (h id)))
    intro removed
    match removed with
    | .ok true => exact Action.alike_bind (Action.alike_tell _) fun _ => ih
    | .ok false => exact Action.alike_bind (Action.alike_tell _) fun _ => ih
    | .error e => exact Action.alike_bind (Action.alike_tell _) fun _ => ih

/-- A reply that is ready is finished alike on related connections if the stores remove messages
alike. -/
theorem related_finish (relay : Relay) (peer : Peer)
    (h : ∀ id, Action.Alike S (RelayStore.deleteMessage id) (RelayStore.deleteMessage id))
    (prepared : Prepared) :
    Action.Alike (Cycle.Related I S) (relay.finish peer prepared) (relay.finish peer prepared) := by
  apply Action.alike_bind (related_answer relay peer _ _ _)
  rintro ⟨sent, delivered⟩
  apply Action.alike_bind (related_removeDelivered h prepared.sender delivered)
  intro _
  exact Action.alike_pure _

/-! ### Steps that read -/

/-- A body is served alike if it is read alike. -/
theorem related_serve (code : RequestCode) (handler : Handler) (occasion : Occasion)
    (h : StoresAlike S occasion.sender) {cycle : Cycle σ} {cycle' : Cycle τ}
    (stores : S cycle.store cycle'.store) (outbox : cycle.outbox = cycle'.outbox)
    (body : ((Intake.readBody code).run.run cycle.intake).1
      = ((Intake.readBody code).run.run cycle'.intake).1)
    (rest : J ((Intake.readBody code).run.run cycle.intake).2
      ((Intake.readBody code).run.run cycle'.intake).2) :
    ((serve code handler occasion).run cycle).Alike (Cycle.Related J S)
      ((serve code handler occasion).run cycle') := by
  apply Action.alike_run_bind
  · exact ⟨congrArg (Except.mapError _) body, rfl, stores, rest, outbox⟩
  intro request _
  exact Cycle.related_storing (Handler.alike_handle handler occasion h request)

/-- What is done about a request once its header is read, of which only the code and the client are
looked at. -/
def behindHeader (relay : Relay) (circumstances : Circumstances) (number : UInt16)
    (sender : ClientId) : Action (Cycle σ) DispatchError Prepared :=
  match RequestCode.ofNumber? number with
  | none => Action.fail (.unknownCode number)
  | some code =>
    match relay.router.find? code with
    | none => Action.fail (.unknownCode number)
    | some handler => do
      checkSender code sender
      noteSender sender circumstances.now
      let occasion : Occasion := {
        sender, now := circumstances.now, candidates := circumstances.candidates }
      match ← (serve code handler occasion).attempt with
      | .ok reply => return { code, sender, reply }
      | .error e =>
        Action.tell (.error s!"{code.name} from {sender.text} failed: {e.message}")
        return { code, sender, reply := { response := .genericError, delivered := [] } }

/-- Preparing a reply is reading the header and going on behind it. -/
theorem prepare_eq (relay : Relay) (circumstances : Circumstances) :
    relay.prepare (σ := σ) circumstances
      = Cycle.readingHeader.mapError .badHeader >>= fun header =>
          relay.behindHeader circumstances header.code header.clientId := rfl

/-- Behind a header the preparation runs alike on related connections off which the same request is
read. -/
theorem related_behindHeader (relay : Relay) (circumstances : Circumstances) (number : UInt16)
    {sender : ClientId} (h : StoresAlike S sender) {cycle : Cycle σ} {cycle' : Cycle τ}
    (hc : Cycle.Related J S cycle cycle')
    (body : ∀ code, RequestCode.ofNumber? number = some code →
      ((Intake.readBody code).run.run cycle.intake).1
          = ((Intake.readBody code).run.run cycle'.intake).1 ∧
        J ((Intake.readBody code).run.run cycle.intake).2
          ((Intake.readBody code).run.run cycle'.intake).2) :
    ((relay.behindHeader circumstances number sender).run cycle).Alike (Cycle.Related J S)
      ((relay.behindHeader circumstances number sender).run cycle') := by
  unfold behindHeader
  cases known : RequestCode.ofNumber? number with
  | none => exact ⟨rfl, rfl, hc⟩
  | some code =>
    simp only
    cases relay.router.find? code with
    | none => exact ⟨rfl, rfl, hc⟩
    | some handler =>
      obtain ⟨same, rest⟩ := body code known
      -- up to the body the intakes stay as they are
      let Still (intake intake' : Intake) : Prop :=
        intake = cycle.intake ∧ intake' = cycle'.intake
      have weaker : ∀ c c', Cycle.Related Still S c c' → Cycle.Related J S c c' := by
        rintro c c' ⟨stores, ⟨still, still'⟩, outbox⟩
        exact ⟨stores, still ▸ still' ▸ hc.intake, outbox⟩
      have begun : Cycle.Related Still S cycle cycle' := ⟨hc.store, ⟨rfl, rfl⟩, hc.outbox⟩
      apply Action.alike_run_bind_of
        (related_checkSender code sender (h.hasId _) cycle cycle' begun) weaker
      intro _ _ c c' checked
      apply Action.alike_run_bind_of (related_noteSender sender _ (h.updateLastSeen _ _) c c' checked)
        weaker
      rintro _ - c c' ⟨stores, ⟨still, still'⟩, outbox⟩
      rw [← still, ← still'] at same rest
      have served := related_serve code handler
        { sender, now := circumstances.now, candidates := circumstances.candidates } h stores
        outbox same rest
      apply Action.alike_run_bind
      · exact ⟨congrArg Except.ok served.result, served.notices, served.states⟩
      intro result _
      cases result with
      | ok reply => exact Action.alike_pure _
      | error e => exact Action.alike_bind (Action.alike_tell _) fun _ => Action.alike_pure _

/-- Replies are prepared alike over stores that are alike for the client of the header, if the same
is read. Only what is said about the headers may differ. -/
theorem related_prepare (relay : Relay) (circumstances : Circumstances) {cycle : Cycle σ}
    {cycle' : Cycle τ} (hc : Cycle.Related (ReadAlike N J) S cycle cycle')
    (h : ∀ client, callerOf cycle.intake = some client → StoresAlike S client) :
    ((relay.prepare circumstances).run cycle).AlikeBehind N (Cycle.Related J S)
      ((relay.prepare circumstances).run cycle') := by
  rw [prepare_eq, prepare_eq, Action.run_bind, Action.run_bind]
  cases hc.intake with
  | noHeader read read' silent rest =>
    simp only [Action.run_mapError, Cycle.run_readingHeader_of_error read,
      Cycle.run_readingHeader_of_error read', mapError_error]
    exact ⟨rfl, ⟨[], [], [], silent, rfl, rfl⟩, hc.store, rest, hc.outbox⟩
  | @header header _ left left' read read' news client code rest body =>
    have named : callerOf cycle.intake = some header.clientId :=
      callerOf_eq_some ((Cycle.result_readingHeader cycle).trans (congrArg Prod.fst read))
    have left_ : Cycle.Related J S { cycle with intake := left } { cycle' with intake := left' } :=
      ⟨hc.store, rest, hc.outbox⟩
    have out := related_behindHeader relay circumstances header.code (h _ named) left_ body
    simp only [Action.run_mapError, Cycle.run_readingHeader_of_ok read,
      Cycle.run_readingHeader_of_ok read', mapError_ok, client, code]
    exact ⟨out.result, ⟨_, _, _, news, rfl, congrArg _ out.notices.symm⟩, out.states⟩

/-- Replies are prepared alike over stores that are alike for the client of the header. -/
theorem alike_prepare (relay : Relay) (circumstances : Circumstances) {cycle : Cycle σ}
    {cycle' : Cycle τ} (hc : Cycle.Alike S cycle cycle')
    (h : ∀ client, callerOf cycle.intake = some client → StoresAlike S client) :
    ((relay.prepare circumstances).run cycle).Alike (Cycle.Alike S)
      ((relay.prepare circumstances).run cycle') := by
  rw [Cycle.alike_eq_related]
  have related : Cycle.Related (ReadAlike Eq Eq) S cycle cycle' :=
    ⟨hc.store, hc.intake ▸ ReadAlike.refl cycle.intake, hc.outbox⟩
  exact (related_prepare relay circumstances related h).alike

/-- Connections are served alike over stores that are alike, if the same is read. Only what is said
about the headers may differ. -/
theorem related_dispatch (relay : Relay) (circumstances : Circumstances) (peer : Peer)
    (h : ∀ client, StoresAlike S client)
    (hd : ∀ id, Action.Alike S (RelayStore.deleteMessage id) (RelayStore.deleteMessage id))
    {cycle : Cycle σ} {cycle' : Cycle τ} (hc : Cycle.Related (ReadAlike N J) S cycle cycle') :
    ((relay.dispatch circumstances peer).run cycle).AlikeBehind N (Cycle.Related J S)
      ((relay.dispatch circumstances peer).run cycle') := by
  apply Action.alikeBehind_run_bind
  · exact related_prepare relay circumstances hc fun client _ => h client
  intro prepared
  exact related_finish relay peer hd prepared

/-- Connections are served alike over stores that are alike. -/
theorem alike_dispatch (relay : Relay) (circumstances : Circumstances) (peer : Peer)
    (h : ∀ client, StoresAlike S client)
    (hd : ∀ id, Action.Alike S (RelayStore.deleteMessage id) (RelayStore.deleteMessage id)) :
    Action.Alike (Cycle.Alike S) (relay.dispatch circumstances peer)
      (relay.dispatch circumstances peer) := by
  intro cycle cycle' hc
  rw [Cycle.alike_eq_related]
  have related : Cycle.Related (ReadAlike Eq Eq) S cycle cycle' :=
    ⟨hc.store, hc.intake ▸ ReadAlike.refl cycle.intake, hc.outbox⟩
  exact (related_dispatch relay circumstances peer h hd related).alike

end Relay

end MessageRelay.Service
