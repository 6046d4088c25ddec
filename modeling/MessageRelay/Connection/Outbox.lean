import MessageRelay.Connection.Incoming
import MessageRelay.Protocol.Framing
import MessageRelay.Protocol.Response

/-!
# Sending a response

The other side decides how many bytes each write takes and whether it fails. A response is encoded,
cut into packets, and each packet written until all of it is taken; then the connection is flushed.
A response that has no encoding is not begun, and a write that takes nothing ends the sending.
-/

set_option autoImplicit false

namespace MessageRelay.Connection

open Protocol

/-- What becomes of a write. -/
inductive WriteFate where
  | takesAll
  /-- At most so many bytes are taken. -/
  | takes (limit : Nat)
  | fails (fault : SocketFault)
  deriving DecidableEq

/-- The other side of a connection, which knows how many bytes each write so far has taken. -/
structure Peer where
  /-- What becomes of the next write. -/
  write : List Nat → WriteFate
  /-- Why the next flush fails, if it does. -/
  flush : List Nat → Option SocketFault

namespace Peer

/-- A side that takes everything. -/
def willing : Peer where
  write _ := .takesAll
  flush _ := none

/-- A side that takes at most `perWrite?` bytes at a time and fails once it took `total?` bytes. -/
def limited (perWrite? total? : Option Nat) (fault : SocketFault)
    (flushFault? : Option SocketFault) : Peer where
  write sizes :=
    let taken := sizes.foldl Nat.add 0
    match perWrite?, total? with
    | none, none => .takesAll
    | some perWrite, none => .takes perWrite
    | none, some total =>
      if total ≤ taken then .fails fault else .takes (total - taken)
    | some perWrite, some total =>
      if total ≤ taken then .fails fault else .takes (min perWrite (total - taken))
  flush _ := flushFault?

end Peer

/-- What went out on a connection. -/
structure Outbox where
  /-- The bytes that were taken. -/
  taken : Bytes
  /-- How many bytes each write has taken. -/
  sizes : List Nat
  deriving DecidableEq

/-- Why a response did not go out. -/
inductive SendError where
  /-- The response has no encoding. -/
  | notEncoded (cause : WireError)
  /-- A write took nothing. -/
  | stalled
  /-- A write or the flush failed. -/
  | socket (fault : SocketFault)
  deriving DecidableEq

def SendError.message : SendError → String
  | .notEncoded cause => s!"failed to encode response: {cause.message}"
  | .stalled => "send failed: write zero"
  | .socket fault => s!"send failed: {fault.message}"

namespace Outbox

def empty : Outbox :=
  ⟨[], []⟩

/-- A write that takes so many of the bytes it is offered. -/
def take (count : Nat) (bytes : Bytes) (outbox : Outbox) : Outbox where
  taken := outbox.taken ++ bytes.take count
  sizes := outbox.sizes ++ [min count bytes.length]

/-- Writes until all bytes are taken. -/
def writeAll (peer : Peer) (bytes : Bytes) (outbox : Outbox) : Except SendError Unit × Outbox :=
  if _ : bytes = [] then (.ok (), outbox)
  else
    match peer.write outbox.sizes with
    | .fails fault => (.error (.socket fault), outbox)
    | .takesAll => (.ok (), outbox.take bytes.length bytes)
    | .takes limit =>
      if _ : limit = 0 then (.error .stalled, outbox.take limit bytes)
      else writeAll peer (bytes.drop limit) (outbox.take limit bytes)
termination_by bytes.length
decreasing_by
  have := List.length_pos_iff.2 ‹¬ bytes = []›
  simp only [List.length_drop]
  omega

/-- Writes packets one after the other. -/
def writePackets (peer : Peer) : List Bytes → Outbox → Except SendError Unit × Outbox
  | [], outbox => (.ok (), outbox)
  | packet :: packets, outbox =>
    match outbox.writeAll peer packet with
    | (.error e, outbox') => (.error e, outbox')
    | (.ok (), outbox') => writePackets peer packets outbox'

/-- Writes bytes in packets and flushes; gives the number of bytes written. -/
def deliver (peer : Peer) (packetSize : Nat) (message : Bytes) (outbox : Outbox) :
    Except SendError Nat × Outbox :=
  let packets := Framing.split packetSize message
  match outbox.writePackets peer packets with
  | (.error e, outbox') => (.error e, outbox')
  | (.ok (), outbox') =>
    match peer.flush outbox'.sizes with
    | some fault => (.error (.socket fault), outbox')
    | none => (.ok packets.flatten.length, outbox')

/-- Sends a response; gives the number of bytes written. -/
def send (peer : Peer) (packetSize : Nat) (response : Response) (outbox : Outbox) :
    Except SendError Nat × Outbox :=
  match response.encode with
  | .error cause => (.error (.notEncoded cause), outbox)
  | .ok message => outbox.deliver peer packetSize message

end Outbox

end MessageRelay.Connection
