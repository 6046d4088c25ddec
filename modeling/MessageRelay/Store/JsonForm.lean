import MessageRelay.Json.Decode
import MessageRelay.Json.Writer
import MessageRelay.Store.Record
import MessageRelay.Timestamp.Rfc3339

/-!
# Stored values as JSON

The form in which each stored value is written and the forms in which it is read. Byte strings are
arrays of numbers, codes are their names, and records are objects whose fields have a fixed order.
-/

set_option autoImplicit false

namespace MessageRelay

namespace Protocol

namespace ClientId

/-- An identifier is an array of its bytes. -/
def toJson (id : ClientId) : Json :=
  .byteArray id.bytes

def ofJson? : Json → Option ClientId
  | .array items => do
    let bytes ← items.mapM fun item => (item.asNatural? 255).map UInt8.ofNat
    if h : bytes.length = clientIdSize then some ⟨bytes, h⟩ else none
  | _ => none

end ClientId

namespace RequestCode

/-- A code is its name. -/
def toJson (code : RequestCode) : Json :=
  .text code.name

def ofJson? (value : Json) : Option RequestCode :=
  value.asChoice?.bind ofName?

end RequestCode

namespace ResponseCode

/-- A code is its name. -/
def toJson (code : ResponseCode) : Json :=
  .text code.name

def ofJson? (value : Json) : Option ResponseCode :=
  value.asChoice?.bind ofName?

end ResponseCode

namespace MessageType

/-- A type is its name. -/
def toJson (type : MessageType) : Json :=
  .text type.name

def ofJson? (value : Json) : Option MessageType :=
  value.asChoice?.bind ofName?

end MessageType

end Protocol

namespace Store

open Protocol (ClientId MessageType)

namespace ClientRecord

/-- The names of the fields in their order. -/
def fieldNames : List String :=
  ["id", "name", "public_key", "last_seen"]

def toJson (record : ClientRecord) : Json :=
  .record [("id", record.id.toJson), ("name", .text record.name),
    ("public_key", .byteArray record.publicKey), ("last_seen", .text record.lastSeen.toText)]

def ofJson? (value : Json) : Option ClientRecord := do
  match ← value.asRecord? fieldNames with
  | [id, name, publicKey, lastSeen] =>
    some {
      id := ← ClientId.ofJson? id
      name := ← name.asText?
      publicKey := ← publicKey.asBytes?
      lastSeen := ← lastSeen.asText?.bind Timestamp.ofText? }
  | _ => none

/-- The clients that an array of such forms lists. -/
def listOfJson? : Json → Option (List ClientRecord)
  | .array items => items.mapM ofJson?
  | _ => none

end ClientRecord

namespace StoredMessage

def fieldNames : List String :=
  ["id", "to", "from", "message_type", "content"]

def toJson (message : StoredMessage) : Json :=
  .record [("id", .natural message.id.toNat), ("to", message.target.toJson),
    ("from", message.sender.toJson), ("message_type", message.type.toJson),
    ("content", .byteArray message.content)]

def ofJson? (value : Json) : Option StoredMessage := do
  match ← value.asRecord? fieldNames with
  | [id, target, sender, type, content] =>
    some {
      id := UInt32.ofNat (← id.asNatural? 4294967295)
      target := ← ClientId.ofJson? target
      sender := ← ClientId.ofJson? sender
      type := ← MessageType.ofJson? type
      content := ← content.asBytes? }
  | _ => none

end StoredMessage

end Store

end MessageRelay
