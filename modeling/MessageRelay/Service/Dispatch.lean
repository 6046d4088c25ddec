import MessageRelay.Connection.Outbox
import MessageRelay.Service.Handler
import MessageRelay.Table

/-!
# Serving one connection

A connection brings one request. Its header has to be readable, its code to have a handler, and its
sender to be a client, unless it asks to become one; otherwise nothing is sent. From there on one
response is sent: that of the handler, or the news that the request failed. The messages that a
response delivers are removed once it is out.
-/

set_option autoImplicit false

namespace MessageRelay.Service

open Connection
open Log (Notice)
open Protocol
open Store (RelayStore StoreError)

/-- Which handler serves the requests with a code. -/
abbrev Router : Type := Table RequestCode Handler

/-- The router in which every code has its own handler. -/
def Router.standard : Router :=
  RequestCode.all.map fun code => (code, code)

/-- Why a connection ended without a complete response. -/
inductive DispatchError where
  | badHeader (cause : ReadError)
  | unknownCode (n : UInt16)
  | unknownClient (id : ClientId)
  /-- The store failed before the sender was known to be a client. -/
  | storeFailed (cause : StoreError)
  | notSent (cause : SendError)
  deriving DecidableEq

def DispatchError.message : DispatchError → String
  | .badHeader cause => s!"bad header: {cause.message}"
  | .unknownCode n => s!"unknown request code {n}"
  | .unknownClient id => s!"unknown client {id.text}"
  | .storeFailed cause => s!"store failure during validation: {cause.message}"
  | .notSent cause => cause.message

/-- How connections are served. -/
structure Relay where
  router : Router
  packetSize : Nat

/-- The relay of the protocol. -/
def Relay.standard : Relay :=
  ⟨.standard, Protocol.packetSize⟩

/-- What each connection finds anew. -/
structure Circumstances where
  now : Timestamp
  /-- Identifiers to try for a new client, in order. -/
  candidates : List ClientId

/-- A reply that is ready to be sent, with the code and the sender of the request. -/
structure Prepared where
  code : RequestCode
  sender : ClientId
  reply : Reply
  deriving DecidableEq

/-- A connection that is being served, with the store. -/
structure Cycle (σ : Type) where
  store : σ
  intake : Intake
  outbox : Outbox

namespace Cycle

variable {σ ε α : Type}

/-- Work on the store. -/
def storing (action : Action σ ε α) : Action (Cycle σ) ε α :=
  action.on Cycle.store fun store cycle => { cycle with store }

/-- A step of reading. -/
def reading (step : Assembling α) : Action (Cycle σ) ReadError α :=
  ⟨fun cycle =>
    let (result, intake) := step.run.run cycle.intake
    ⟨result, { cycle with intake }, []⟩⟩

/-- A step of writing. -/
def writing (step : Outbox → Except SendError α × Outbox) : Action (Cycle σ) SendError α :=
  ⟨fun cycle =>
    let (result, outbox) := step cycle.outbox
    ⟨result, { cycle with outbox }, []⟩⟩

/-- What there is to say about a header that came with the first so many bytes. -/
def headerNotice (header : RequestHeader) (received : Nat) : Notice :=
  .debug (s!"Read header code={header.code} client={header.clientId.text} "
    ++ s!"payload_size={header.payloadSize} ({received} bytes in first packet)")

/-- What there is to say once the header is known: nothing if it was known before. -/
def headerNews (before : Intake) (header : RequestHeader) (after : Intake) : List Notice :=
  match before.header? with
  | some _ => []
  | none => [headerNotice header (after.buffer.length - before.buffer.length)]

/-- Reads the header of a request and says what it states. -/
def readingHeader : Action (Cycle σ) ReadError RequestHeader := do
  let before ← Action.look
  let header ← reading Intake.readHeader
  let after ← Action.look
  Action.tellAll (headerNews before.intake header after.intake)
  return header

/-- Sends a response and says how many bytes went out. -/
def sending (peer : Peer) (packetSize : Nat) (response : Response) :
    Action (Cycle σ) SendError Nat := do
  let written ← writing (Outbox.send peer packetSize response)
  Action.tell (.debug s!"Wrote {response.code.name} response ({written} bytes)")
  return written

/-- A step on the outbox changes nothing else of a cycle and tells nothing. -/
theorem run_writing (step : Outbox → Except SendError α × Outbox) (cycle : Cycle σ) :
    (writing step).run cycle
      = ⟨(step cycle.outbox).1, { cycle with outbox := (step cycle.outbox).2 }, []⟩ := rfl

/-- What is said once a response is out has no part in what comes of sending it. -/
@[simp] theorem result_sending (peer : Peer) (packetSize : Nat) (response : Response)
    (cycle : Cycle σ) :
    ((sending peer packetSize response).run cycle).result
      = (Outbox.send peer packetSize response cycle.outbox).1 := by
  rw [sending, Action.run_bind, run_writing]
  cases (Outbox.send peer packetSize response cycle.outbox).1 with
  | error e => rfl
  | ok written => rfl

/-- Sending a response changes nothing of a cycle but its outbox. -/
@[simp] theorem state_sending (peer : Peer) (packetSize : Nat) (response : Response)
    (cycle : Cycle σ) :
    ((sending peer packetSize response).run cycle).state
      = { cycle with outbox := (Outbox.send peer packetSize response cycle.outbox).2 } := by
  rw [sending, Action.run_bind, run_writing]
  cases (Outbox.send peer packetSize response cycle.outbox).1 with
  | error e => rfl
  | ok written => rfl

/-- What reading a header gives, leaves and says. -/
theorem run_readingHeader_of_ok {cycle : Cycle σ} {header : RequestHeader} {left : Intake}
    (h : Intake.readHeader.run.run cycle.intake = (.ok header, left)) :
    readingHeader.run cycle
      = ⟨.ok header, { cycle with intake := left }, headerNews cycle.intake header left⟩ := by
  simp only [readingHeader, Action.run_bind, Action.run_look, reading, h, Action.run_tellAll,
    Action.run_pure, List.nil_append, List.append_nil]

/-- Nothing is said where there is no header. -/
theorem run_readingHeader_of_error {cycle : Cycle σ} {cause : ReadError} {left : Intake}
    (h : Intake.readHeader.run.run cycle.intake = (.error cause, left)) :
    readingHeader.run cycle = ⟨.error cause, { cycle with intake := left }, []⟩ := by
  simp only [readingHeader, Action.run_bind, Action.run_look, reading, h, List.nil_append]

/-- What is said once the header is known has no part in what comes of reading it. -/
@[simp] theorem result_readingHeader (cycle : Cycle σ) :
    (readingHeader.run cycle).result = (Intake.readHeader.run.run cycle.intake).1 := by
  cases read : Intake.readHeader.run.run cycle.intake with
  | mk result left =>
    cases result with
    | error cause => rw [run_readingHeader_of_error read]
    | ok header => rw [run_readingHeader_of_ok read]

/-- Reading the header changes nothing of a cycle but its intake. -/
@[simp] theorem state_readingHeader (cycle : Cycle σ) :
    (readingHeader.run cycle).state
      = { cycle with intake := (Intake.readHeader.run.run cycle.intake).2 } := by
  cases read : Intake.readHeader.run.run cycle.intake with
  | mk result left =>
    cases result with
    | error cause => rw [run_readingHeader_of_error read]
    | ok header => rw [run_readingHeader_of_ok read]

end Cycle

namespace Relay

variable {σ : Type} [RelayStore σ]

/-- Makes sure that the sender is a client, unless it asks to become one. -/
def checkSender (code : RequestCode) (sender : ClientId) : Action (Cycle σ) DispatchError Unit := do
  if code ≠ .register then
    let known ← (Cycle.storing (RelayStore.hasId sender)).mapError .storeFailed
    if !known then Action.fail (.unknownClient sender)

/-- Notes that the sender was seen. A store that fails here does not stop the request. -/
def noteSender (sender : ClientId) (now : Timestamp) : Action (Cycle σ) DispatchError Unit := do
  match ← (Cycle.storing (RelayStore.updateLastSeen sender now)).attempt with
  | .ok _ => return ()
  | .error e => Action.tell (.warn s!"Failed to update last seen for {sender.text}: {e.message}")

/-- Reads the body of a request and lets a handler serve it. -/
def serve (code : RequestCode) (handler : Handler) (occasion : Occasion) :
    Action (Cycle σ) HandlerError Reply := do
  let request ← (Cycle.reading (Intake.readBody code)).mapError .badBody
  Cycle.storing (handler.handle occasion request)

/-- Sends a reply. One that has no encoding gives way to the news that the request failed. -/
def answer (relay : Relay) (peer : Peer) (code : RequestCode) (sender : ClientId) (reply : Reply) :
    Action (Cycle σ) DispatchError (ResponseCode × List UInt32) := do
  match ← (Cycle.sending peer relay.packetSize reply.response).attempt with
  | .ok _ => return (reply.response.code, reply.delivered)
  | .error (.notEncoded cause) =>
    Action.tell (.error
      s!"{code.name} response for {sender.text} could not be encoded: {cause.message}")
    let _ ← (Cycle.sending peer relay.packetSize .genericError).mapError .notSent
    return (.genericError, [])
  | .error e => Action.fail (.notSent e)

/-- Removes the messages that a client was handed. A removal that fails stops nothing. -/
def removeDelivered (client : ClientId) : List UInt32 → Action (Cycle σ) DispatchError Unit
  | [] => return ()
  | id :: ids => do
    match ← (Cycle.storing (RelayStore.deleteMessage id)).attempt with
    | .ok true => Action.tell (.debug s!"Delivered message {id} to {client.text}")
    | .ok false => Action.tell (.warn s!"Delivered message {id} was already gone")
    | .error e => Action.tell (.error s!"Failed to delete delivered message {id}: {e.message}")
    removeDelivered client ids

/-- Reads a request and lets its handler serve it. A request that fails from there on has the news
of that as its reply. -/
def prepare (relay : Relay) (circumstances : Circumstances) :
    Action (Cycle σ) DispatchError Prepared := do
  let header ← Cycle.readingHeader.mapError .badHeader
  match RequestCode.ofNumber? header.code with
  | none => Action.fail (.unknownCode header.code)
  | some code =>
    match relay.router.find? code with
    | none => Action.fail (.unknownCode header.code)
    | some handler =>
      let sender := header.clientId
      checkSender code sender
      noteSender sender circumstances.now
      let occasion : Occasion := {
        sender, now := circumstances.now, candidates := circumstances.candidates }
      match ← (serve code handler occasion).attempt with
      | .ok reply => return { code, sender, reply }
      | .error e =>
        Action.tell (.error s!"{code.name} from {sender.text} failed: {e.message}")
        return { code, sender, reply := { response := .genericError, delivered := [] } }

/-- Sends a reply and removes the messages that it delivers. -/
def finish (relay : Relay) (peer : Peer) (prepared : Prepared) :
    Action (Cycle σ) DispatchError ResponseCode := do
  let (sent, delivered) ← relay.answer peer prepared.code prepared.sender prepared.reply
  removeDelivered prepared.sender delivered
  return sent

/-- Serves one connection; gives the code of the response that was sent. -/
def dispatch (relay : Relay) (circumstances : Circumstances) (peer : Peer) :
    Action (Cycle σ) DispatchError ResponseCode := do
  let prepared ← relay.prepare circumstances
  relay.finish peer prepared

/-- Serves a connection on which these bytes arrive. -/
def dispatchOn (relay : Relay) (circumstances : Circumstances) (peer : Peer) (incoming : Incoming)
    (store : σ) : Outcome (Cycle σ) DispatchError ResponseCode :=
  (relay.dispatch circumstances peer).run {
    store, intake := Intake.start relay.packetSize incoming, outbox := .empty }

end Relay

end MessageRelay.Service
