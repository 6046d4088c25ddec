import MessageRelay.Protocol.Headers

/-!
# Responses

A response is one of five answers or the news that a request failed. The list of clients is made of
entries of one width; the messages are a sequence of entries each of which states how long its
content is. The payload that a response is read from is cut to the size that its header states.
-/

set_option autoImplicit false

namespace MessageRelay.Protocol

/-- A client in a list of clients. -/
structure ClientEntry where
  id : ClientId
  name : String
  deriving DecidableEq

/-- A message as it is delivered. -/
structure MessageEntry where
  sender : ClientId
  id : UInt32
  type : MessageType
  content : Bytes
  deriving DecidableEq

/-- An answer of the relay. -/
inductive Response where
  /-- The sender is registered under a new identifier. -/
  | registered (clientId : ClientId)
  /-- The clients other than the sender. -/
  | clientsList (entries : List ClientEntry)
  /-- The client with a name, and its key. -/
  | publicKey (clientId : ClientId) (key : Bytes)
  /-- A message waits for its target under a number. -/
  | messageSent (target : ClientId) (messageId : UInt32)
  /-- The messages that waited for the sender. -/
  | unreadMessages (entries : List MessageEntry)
  /-- The request failed. -/
  | genericError
  deriving DecidableEq

namespace ClientEntry

def encode (entry : ClientEntry) : Except WireError Bytes := do
  let nameField ← encodeName entry.name
  .ok (entry.id.bytes ++ nameField)

/-- The entry in the bytes of its width. -/
def decode (bytes : Bytes) : Except WireError ClientEntry := do
  let name ← decodeName (Bytes.slice clientIdSize nameSize bytes)
  .ok { id := ClientId.ofBytes bytes, name }

/-- As many entries as are asked for, one after the other. -/
def decodeMany : Nat → Bytes → Except WireError (List ClientEntry)
  | 0, _ => .ok []
  | n + 1, bytes => do
    let entry ← decode (bytes.take clientEntrySize)
    let entries ← decodeMany n (bytes.drop clientEntrySize)
    .ok (entry :: entries)

end ClientEntry

namespace MessageEntry

def encode (entry : MessageEntry) : Except WireError Bytes := do
  let contentSize ← encodeLength entry.content.length
  .ok (entry.sender.bytes ++ Bytes.ofUInt32 entry.id ++ entry.type.number :: Bytes.ofUInt32 contentSize
    ++ entry.content)

/-- The entry at the front of a byte string, with the number of bytes it takes. -/
def decode (bytes : Bytes) : Except WireError (MessageEntry × Nat) := do
  requireSize .messageEntry messageEntryPreludeSize bytes
  let rest := bytes.drop clientIdSize
  let id := Bytes.toUInt32 rest
  let number := (rest.drop messageIdSize).headD 0
  let type ← match MessageType.ofNumber? number with
    | some type => .ok type
    | none => .error (.unknownMessageType number)
  let contentSize := (Bytes.toUInt32 (rest.drop (messageIdSize + 1))).toNat
  let content := bytes.drop messageEntryPreludeSize
  requireSize .messageContent contentSize content
  .ok ({ sender := ClientId.ofBytes bytes, id, type, content := content.take contentSize },
    messageEntryPreludeSize + contentSize)

/-- All entries of a byte string, which they must fill. -/
def decodeAll (bytes : Bytes) : Except WireError (List MessageEntry) :=
  if bytes.isEmpty then .ok []
  else do
    let (entry, _) ← decode bytes
    let entries ← decodeAll (bytes.drop (messageEntryPreludeSize + entry.content.length))
    .ok (entry :: entries)
termination_by bytes.length
decreasing_by
  cases bytes with
  | nil => simp at *
  | cons b rest => simp [messageEntryPreludeSize, clientIdSize, messageIdSize]; omega

end MessageEntry

namespace Response

def code : Response → ResponseCode
  | .registered _ => .registered
  | .clientsList _ => .clientsList
  | .publicKey _ _ => .publicKey
  | .messageSent _ _ => .messageSent
  | .unreadMessages _ => .unreadMessages
  | .genericError => .genericError

def encodePayload : Response → Except WireError Bytes
  | .registered clientId => .ok clientId.bytes
  | .clientsList entries => do
    let parts ← entries.mapM ClientEntry.encode
    .ok parts.flatten
  | .publicKey clientId key => do
    let keyField ← encodeKey key
    .ok (clientId.bytes ++ keyField)
  | .messageSent target messageId => .ok (target.bytes ++ Bytes.ofUInt32 messageId)
  | .unreadMessages entries => do
    let parts ← entries.mapM MessageEntry.encode
    .ok parts.flatten
  | .genericError => .ok []

def encode (response : Response) : Except WireError Bytes := do
  let payload ← response.encodePayload
  let payloadSize ← encodeLength payload.length
  let header : ResponseHeader := {
    version := serverVersion
    code := response.code
    payloadSize }
  .ok (header.encode ++ payload)

/-- The response with a code whose payload is given and nothing more. -/
def decodePayload (code : ResponseCode) (payload : Bytes) : Except WireError Response :=
  match code with
  | .registered => do
    requireSize .registrationResponse clientIdSize payload
    .ok (.registered (ClientId.ofBytes payload))
  | .clientsList =>
    let count := payload.length / clientEntrySize
    if count * clientEntrySize = payload.length then do
      let entries ← ClientEntry.decodeMany count payload
      .ok (.clientsList entries)
    else .error (.short .clientsList ((count + 1) * clientEntrySize) payload.length)
  | .publicKey => do
    requireSize .publicKeyResponse (clientIdSize + publicKeySize) payload
    .ok (.publicKey (ClientId.ofBytes payload) (Bytes.slice clientIdSize publicKeySize payload))
  | .messageSent => do
    requireSize .messageSentResponse (clientIdSize + messageIdSize) payload
    .ok (.messageSent (ClientId.ofBytes payload) (Bytes.toUInt32 (payload.drop clientIdSize)))
  | .unreadMessages => do
    let entries ← MessageEntry.decodeAll payload
    .ok (.unreadMessages entries)
  | .genericError => .ok .genericError

/-- The response that a header announces, from the bytes that follow the header. -/
def decode (header : ResponseHeader) (bytes : Bytes) : Except WireError Response := do
  let declared := header.payloadSize.toNat
  requireSize .responsePayload declared bytes
  decodePayload header.code (bytes.take declared)

/-- A whole response with its header. -/
def decodeWhole (bytes : Bytes) : Except WireError (ResponseHeader × Response) := do
  let header ← ResponseHeader.decode bytes
  let response ← decode header (bytes.drop responseHeaderSize)
  .ok (header, response)

end Response

end MessageRelay.Protocol
