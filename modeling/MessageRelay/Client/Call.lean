import MessageRelay.Client.Reception
import MessageRelay.Protocol.Framing
import MessageRelay.Protocol.Request

/-!
# Calls of a client

A call is one connection: one request in whole packets, one response. A client knows the identifier
that it was registered under and puts it into every request; before that it is all zero bytes.
-/

set_option autoImplicit false

namespace MessageRelay.Client

open Connection
open Protocol

/-- What a client can ask for. -/
inductive Call where
  | register (name : String) (key : Bytes)
  | clients
  | publicKey (name : String)
  | sendMessage (target : ClientId) (type : MessageType) (content : Bytes)
  | unreadMessages
  deriving DecidableEq

/-- What a call gives. -/
inductive Answer where
  /-- The identifier that the client is now registered under. -/
  | registered (id : ClientId)
  /-- The other clients. -/
  | clients (entries : List ClientEntry)
  /-- The identifier and the key under a name. -/
  | publicKey (id : ClientId) (key : Bytes)
  /-- The number of the message. -/
  | messageSent (id : UInt32)
  /-- The messages that waited for the client. -/
  | unreadMessages (entries : List MessageEntry)
  deriving DecidableEq

namespace Call

def request : Call → Request
  | .register name key => .register name key
  | .clients => .clientsList
  | .publicKey name => .publicKey name
  | .sendMessage target type content => .sendMessage target type.number content
  | .unreadMessages => .unreadMessages

/-- The packets of a call by a client. -/
def packets (call : Call) (sender : ClientId) : Except ClientError (List Bytes) :=
  ((call.request.encode sender).mapError .wire).map (Framing.splitPadded packetSize)

/-- What a response means for a call. -/
def interpret (call : Call) (response : Response) : Except ClientError Answer :=
  match call, response with
  | _, .genericError => .error .rejected
  | .register _ _, .registered id => .ok (.registered id)
  | .clients, .clientsList entries => .ok (.clients entries)
  | .publicKey _, .publicKey id key => .ok (.publicKey id key)
  | .sendMessage _ _ _, .messageSent _ id => .ok (.messageSent id)
  | .unreadMessages, .unreadMessages entries => .ok (.unreadMessages entries)
  | _, other => .error (.unexpected other.code)

/-- What a call gives when its request is out and these bytes arrive. -/
def conclude (call : Call) (incoming : Incoming) : Except ClientError Answer := do
  let response ← Reception.receive incoming
  call.interpret response

/-- The identifier that a client goes by after a call. -/
def idAfter (sender : ClientId) : Except ClientError Answer → ClientId
  | .ok (.registered id) => id
  | _ => sender

end Call

end MessageRelay.Client
