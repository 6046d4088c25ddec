import MessageRelay.Connection.Incoming
import MessageRelay.Protocol.Request

/-!
# Putting a request together

A request is put together from a connection. The first read takes up to one packet and has to bring
the whole header. What the body still needs is read up to one packet at a time; of what comes with
it, the bytes that the body does not need are dropped. What was kept stays kept, also by a step that
fails.
-/

set_option autoImplicit false

namespace MessageRelay.Connection

open Protocol

/-- Why a request could not be put together. -/
inductive ReadError where
  /-- The bytes are no request. -/
  | malformed (cause : WireError)
  /-- The other side was gone before everything needed had arrived. -/
  | truncated (expected received : Nat)
  /-- A read failed. -/
  | socket (fault : SocketFault)
  deriving DecidableEq

def ReadError.message : ReadError → String
  | .malformed cause => s!"malformed request: {cause.message}"
  | .truncated expected received =>
    s!"truncated request: expected {expected} bytes, received {received}"
  | .socket fault => s!"I/O error: {fault.message}"

/-- A request that is being put together. -/
structure Intake where
  /-- Bytes of a read. -/
  room : Nat
  /-- A read takes something. -/
  room_pos : 0 < room
  /-- The bytes kept so far. -/
  buffer : Bytes
  /-- The header, once it is known. -/
  header? : Option RequestHeader
  /-- What is still to be read. -/
  incoming : Incoming

/-- A step of putting a request together. -/
abbrev Assembling (α : Type) : Type := ExceptT ReadError (StateM Intake) α

namespace Intake

/-- Before the first read. A packet has room for a header at least. -/
def start (packetSize : Nat) (incoming : Incoming) : Intake where
  room := max packetSize requestHeaderSize
  room_pos := Nat.lt_of_lt_of_le (by decide) (Nat.le_max_right packetSize requestHeaderSize)
  buffer := []
  header? := none
  incoming := incoming

/-- The result of a wire format function. -/
def lift {α : Type} (result : Except WireError α) : Assembling α :=
  match result with
  | .ok a => pure a
  | .error cause => throw (.malformed cause)

/-- One read, all of which is kept. -/
def readPacket : Assembling Unit := do
  let intake ← get
  match intake.incoming.read intake.room with
  | (.error fault, rest) =>
    set { intake with incoming := rest }
    throw (.socket fault)
  | (.ok bytes, rest) => set { intake with buffer := intake.buffer ++ bytes, incoming := rest }

/-- The header, for which one read is made unless it is known. -/
def readHeader : Assembling RequestHeader := do
  match (← get).header? with
  | some header => return header
  | none =>
    readPacket
    let header ← lift (RequestHeader.decode (← get).buffer)
    modify fun intake => { intake with header? := some header }
    return header

/-- Reads until at least `goal` bytes are kept, and keeps no more than that. -/
def fill (goal : Nat) (intake : Intake) : Except ReadError Unit × Intake :=
  if _ : goal ≤ intake.buffer.length then (.ok (), intake)
  else
    match intake.incoming.read intake.room with
    | (.error fault, rest) => (.error (.socket fault), { intake with incoming := rest })
    | (.ok bytes, rest) =>
      if _ : bytes = [] then
        (.error (.truncated goal intake.buffer.length), { intake with incoming := rest })
      else
        fill goal { intake with
          buffer := intake.buffer ++ bytes.take (goal - intake.buffer.length)
          incoming := rest }
termination_by goal - intake.buffer.length
decreasing_by
  have := List.length_pos_iff.2 ‹¬ bytes = []›
  simp only [List.length_append, List.length_take]
  omega

/-- Reads until at least `goal` bytes are kept. -/
def fillTo (goal : Nat) : Assembling Unit :=
  fun intake => fill goal intake

/-- The width of the body of a request with a code, for which a message's prelude is read. -/
def bodySize : RequestCode → Assembling Nat
  | .register => return registrationSize
  | .publicKey => return publicKeyLookupSize
  | .clientsList => return 0
  | .unreadMessages => return 0
  | .sendMessage => do
    fillTo (requestHeaderSize + sendPreludeSize)
    let fields ← lift (SendPrelude.decode ((← get).buffer.drop requestHeaderSize))
    return sendPreludeSize + fields.contentSize.toNat

/-- The request with a code. Its header is read first unless it is known. -/
def readBody (code : RequestCode) : Assembling Request := do
  let _ ← readHeader
  let size ← bodySize code
  fillTo (requestHeaderSize + size)
  lift (Request.decodeBody code ((← get).buffer.drop requestHeaderSize))

end Intake

end MessageRelay.Connection
