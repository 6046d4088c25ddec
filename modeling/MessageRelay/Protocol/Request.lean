import MessageRelay.Protocol.Headers

/-!
# Requests

A request is one of five questions to the relay. Its body has a fixed width but for a message to be
sent, whose body states how long its content is. The size in the header of a request is written but
not needed to read the body.
-/

set_option autoImplicit false

namespace MessageRelay.Protocol

/-- A question to the relay. -/
inductive Request where
  /-- Asks to be registered under a name with a public key. -/
  | register (name : String) (key : Bytes)
  /-- Asks who else is registered. -/
  | clientsList
  /-- Asks for the public key of the client with a name. -/
  | publicKey (name : String)
  /-- Leaves a message for a client. The type is any byte until the relay looks at it. -/
  | sendMessage (target : ClientId) (type : UInt8) (content : Bytes)
  /-- Asks for the messages that wait for the sender. -/
  | unreadMessages
  deriving DecidableEq

/-- What stands in front of the content of a message to be sent. -/
structure SendPrelude where
  target : ClientId
  type : UInt8
  contentSize : UInt32
  deriving DecidableEq

namespace SendPrelude

/-- The fields at the front of a body. -/
def decode (body : Bytes) : Except WireError SendPrelude :=
  if body.length < sendPreludeSize then
    .error (.short .sendPrelude sendPreludeSize body.length)
  else
    let rest := body.drop clientIdSize
    .ok {
      target := ClientId.ofBytes body
      type := rest.headD 0
      contentSize := Bytes.toUInt32 (rest.drop 1) }

def encode (fields : SendPrelude) : Bytes :=
  fields.target.bytes ++ fields.type :: Bytes.ofUInt32 fields.contentSize

end SendPrelude

namespace Request

def code : Request → RequestCode
  | .register _ _ => .register
  | .clientsList => .clientsList
  | .publicKey _ => .publicKey
  | .sendMessage _ _ _ => .sendMessage
  | .unreadMessages => .unreadMessages

/-- The body of a request. A name is looked at before a key. -/
def encodeBody : Request → Except WireError Bytes
  | .register name key => do
    let nameField ← encodeName name
    let keyField ← encodeKey key
    .ok (nameField ++ keyField)
  | .clientsList => .ok []
  | .publicKey name => encodeName name
  | .sendMessage target type content => do
    let contentSize ← encodeLength content.length
    .ok (({ target, type, contentSize } : SendPrelude).encode ++ content)
  | .unreadMessages => .ok []

/-- The bytes of a request from a client. -/
def encode (request : Request) (sender : ClientId) : Except WireError Bytes := do
  let body ← request.encodeBody
  let payloadSize ← encodeLength body.length
  let header : RequestHeader := {
    clientId := sender
    version := clientVersion
    code := request.code.number
    payloadSize }
  .ok (header.encode ++ body)

/-- The registration at the front of a body. -/
def decodeRegistration (body : Bytes) : Except WireError Request := do
  requireSize .registration registrationSize body
  let name ← decodeName (body.take nameSize)
  if name.isEmpty then .error (.badName .empty)
  else if maxNameLength < (Text.utf8 name).length then .error (.badName .unterminated)
  else .ok (.register name (Bytes.slice nameSize publicKeySize body))

/-- The public key lookup at the front of a body. -/
def decodeLookup (body : Bytes) : Except WireError Request := do
  requireSize .publicKeyLookup publicKeyLookupSize body
  let name ← decodeName (body.take nameSize)
  .ok (.publicKey name)

/-- The message to be sent at the front of a body. -/
def decodeSend (body : Bytes) : Except WireError Request := do
  let fields ← SendPrelude.decode body
  let contentSize := fields.contentSize.toNat
  requireSize .sendContent (sendPreludeSize + contentSize) body
  .ok (.sendMessage fields.target fields.type (Bytes.slice sendPreludeSize contentSize body))

/-- The request with a code whose body is at the front of a byte string. -/
def decodeBody (code : RequestCode) (body : Bytes) : Except WireError Request :=
  match code with
  | .register => decodeRegistration body
  | .clientsList => .ok .clientsList
  | .publicKey => decodeLookup body
  | .sendMessage => decodeSend body
  | .unreadMessages => .ok .unreadMessages

/-- A whole request with its header. -/
def decode (bytes : Bytes) : Except WireError (RequestHeader × Request) := do
  let header ← RequestHeader.decode bytes
  let code ← header.requestCode
  let request ← decodeBody code (bytes.drop requestHeaderSize)
  .ok (header, request)

end Request

end MessageRelay.Protocol
