import MessageRelay.Action
import MessageRelay.Store.Record
import MessageRelay.Store.StoreError

/-!
# What a store does

The relay keeps its clients and their messages in a store. Every operation may fail, and may change
the store even then.
-/

set_option autoImplicit false

namespace MessageRelay.Store

open Protocol (ClientId MessageType)

/-- A type of stores. -/
class RelayStore (σ : Type) where
  /-- Whether a client has an identifier. -/
  hasId : ClientId → Action σ StoreError Bool
  /-- Whether a client has a name. -/
  hasName : String → Action σ StoreError Bool
  /-- Takes in a client with a name and a key, first seen at a moment; false if its identifier or
  its name is in use. -/
  insertClient : ClientId → String → Bytes → Timestamp → Action σ StoreError Bool
  /-- All clients in the order of their names. -/
  clients : Action σ StoreError (List ClientRecord)
  /-- The key of the client with a name. -/
  publicKey : String → Action σ StoreError (Option Bytes)
  /-- The identifier of the client with a name. -/
  idByName : String → Action σ StoreError (Option ClientId)
  /-- Notes that a client was seen at a moment; false if there is no such client. -/
  updateLastSeen : ClientId → Timestamp → Action σ StoreError Bool
  /-- Keeps a message for a target from a sender, and gives its number. -/
  insertMessage : ClientId → ClientId → MessageType → Bytes → Action σ StoreError UInt32
  /-- The messages that wait for a client, oldest first. -/
  unread : ClientId → Action σ StoreError (List StoredMessage)
  /-- Removes a message; false if it does not wait. -/
  deleteMessage : UInt32 → Action σ StoreError Bool

end MessageRelay.Store
