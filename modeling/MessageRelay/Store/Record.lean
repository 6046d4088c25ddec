import MessageRelay.Protocol.ClientId
import MessageRelay.Protocol.Codes
import MessageRelay.Timestamp

/-!
# What is stored

Registered clients and the messages that wait for them.
-/

set_option autoImplicit false

namespace MessageRelay.Store

open Protocol (ClientId MessageType)

/-- A registered client. -/
structure ClientRecord where
  id : ClientId
  name : String
  publicKey : Bytes
  /-- When the client last made a request that was not refused. -/
  lastSeen : Timestamp
  deriving DecidableEq

/-- A message that waits for its target. -/
structure StoredMessage where
  id : UInt32
  target : ClientId
  sender : ClientId
  type : MessageType
  content : Bytes
  deriving DecidableEq

end MessageRelay.Store
