import MessageRelay.Connection.Intake
import MessageRelay.Protocol.Response
import MessageRelay.Store.RelayStore

/-!
# Serving requests

Each kind of request has a handler, which turns a request into a reply by way of the store. A reply
is a response with the numbers of the messages that it delivers: they stay in the store until the
response is out. A handler refuses a request of another kind than its own.
-/

set_option autoImplicit false

namespace MessageRelay.Service

open Connection (ReadError)
open Protocol
open Store (RelayStore StoreError)

/-- Why a request was not served. -/
inductive HandlerError where
  /-- The body of the request could not be put together. -/
  | badBody (cause : ReadError)
  | nameTaken (name : String)
  | nameNotFound (name : String)
  | unknownTarget (target : ClientId)
  | invalidMessageType (n : UInt8)
  /-- The handler is one for requests of another kind. -/
  | wrongHandler (code : RequestCode)
  | storeFailed (cause : StoreError)
  /-- Every candidate for a new identifier is in use. -/
  | noFreshId
  deriving DecidableEq

def HandlerError.message : HandlerError → String
  | .badBody cause => s!"bad request body: {cause.message}"
  | .nameTaken name => s!"name already taken: {Text.quoted name}"
  | .nameNotFound name => s!"name not found: {Text.quoted name}"
  | .unknownTarget target => s!"unknown target client {target.text}"
  | .invalidMessageType n => s!"invalid message type {n}"
  | .wrongHandler code => s!"handler cannot serve {code.name}"
  | .storeFailed cause => s!"store failure: {cause.message}"
  | .noFreshId => "no unused client identifier"

/-- A response and the messages that it delivers. -/
structure Reply where
  response : Response
  delivered : List UInt32
  deriving DecidableEq

/-- What a handler finds around a request. -/
structure Occasion where
  /-- The client that the header of the request names. -/
  sender : ClientId
  now : Timestamp
  /-- Identifiers to try for a new client, in order. -/
  candidates : List ClientId

namespace Handler

variable {σ α : Type} [RelayStore σ]

/-- An operation of the store. -/
def storing (action : Action σ StoreError α) : Action σ HandlerError α :=
  action.mapError .storeFailed

/-- The first candidate that no client has. -/
def freshId : List ClientId → Action σ HandlerError ClientId
  | [] => Action.fail .noFreshId
  | candidate :: candidates => do
    if ← storing (RelayStore.hasId candidate) then freshId candidates
    else return candidate

/-- Registers the sender under a name that nobody has. -/
def registerClient (occasion : Occasion) (name : String) (key : Bytes) : Action σ HandlerError Reply := do
  if ← storing (RelayStore.hasName name) then Action.fail (.nameTaken name)
  let id ← freshId occasion.candidates
  if ← storing (RelayStore.insertClient id name key occasion.now) then
    Action.tell (.info s!"Registered {Text.quoted name} as {id.text}")
    return { response := .registered id, delivered := [] }
  else
    Action.fail (.nameTaken name)

/-- Lists the clients other than the sender. -/
def listClients (occasion : Occasion) : Action σ HandlerError Reply := do
  let records ← storing RelayStore.clients
  let others := records.filter fun record => record.id ≠ occasion.sender
  Action.tell (.debug s!"Listing {others.length} clients for {occasion.sender.text}")
  return {
    response := .clientsList (others.map fun record => { id := record.id, name := record.name })
    delivered := [] }

/-- Looks up the identifier and the key under a name. -/
def lookUp (name : String) : Action σ HandlerError Reply := do
  let id? ← storing (RelayStore.idByName name)
  let key? ← storing (RelayStore.publicKey name)
  match id?, key? with
  | some id, some key => return { response := .publicKey id key, delivered := [] }
  | _, _ => Action.fail (.nameNotFound name)

/-- Leaves a message for its target. -/
def leaveMessage (occasion : Occasion) (target : ClientId) (number : UInt8) (content : Bytes) :
    Action σ HandlerError Reply := do
  match MessageType.ofNumber? number with
  | none => Action.fail (.invalidMessageType number)
  | some type =>
    if ← storing (RelayStore.hasId target) then
      let id ← storing (RelayStore.insertMessage target occasion.sender type content)
      Action.tell (.info (s!"Stored message {id} ({type.name}, {content.length} bytes) "
        ++ s!"from {occasion.sender.text} to {target.text}"))
      return { response := .messageSent target id, delivered := [] }
    else
      Action.fail (.unknownTarget target)

/-- Hands over the messages that wait for the sender. -/
def collect (occasion : Occasion) : Action σ HandlerError Reply := do
  let pending ← storing (RelayStore.unread occasion.sender)
  Action.tell (.debug s!"{pending.length} unread messages for {occasion.sender.text}")
  return {
    response := .unreadMessages (pending.map fun message =>
      { sender := message.sender, id := message.id, type := message.type, content := message.content })
    delivered := pending.map (·.id) }

end Handler

/-- The handlers, each named by the code of the requests it is made for. -/
abbrev Handler : Type := RequestCode

namespace Handler

variable {σ : Type} [RelayStore σ]

def handle (handler : Handler) (occasion : Occasion) (request : Request) :
    Action σ HandlerError Reply :=
  match handler, request with
  | .register, .register name key => registerClient occasion name key
  | .clientsList, .clientsList => listClients occasion
  | .publicKey, .publicKey name => lookUp name
  | .sendMessage, .sendMessage target number content =>
    leaveMessage occasion target number content
  | .unreadMessages, .unreadMessages => collect occasion
  | _, other => Action.fail (.wrongHandler other.code)

end Handler

end MessageRelay.Service
