import MessageRelay.Connection.Incoming
import MessageRelay.Protocol.Response

/-!
# Receiving a response

A client reads up to one packet at a time, first until it has the header of a response and then
until it has the payload that the header announces. What arrives after that is not looked at. A
relay that breaks the connection off before the header is there has not answered, as if it had
closed it.
-/

set_option autoImplicit false

namespace MessageRelay.Client

open Connection
open Protocol

/-- Why a client has no answer. -/
inductive ClientError where
  /-- The connection could not be made, or it failed. -/
  | socket (fault : SocketFault)
  /-- The request has no encoding or the response cannot be read. -/
  | wire (cause : WireError)
  /-- The relay closed the connection without a response. -/
  | noResponse
  /-- The relay closed the connection within the payload. -/
  | truncated (expected received : Nat)
  /-- The relay answered that the request failed. -/
  | rejected
  /-- The relay answered another request. -/
  | unexpected (code : ResponseCode)
  deriving DecidableEq

def ClientError.message : ClientError → String
  | .socket fault => s!"I/O error: {fault.message}"
  | .wire cause => s!"wire error: {cause.message}"
  | .noResponse => "server closed the connection without a response"
  | .truncated expected received =>
    s!"response truncated: expected {expected} bytes, received {received}"
  | .rejected => "request rejected by server"
  | .unexpected code => s!"unexpected response {code.name}"

namespace Reception

/-- What was received in place of enough bytes. -/
inductive Shortfall where
  /-- The other side is gone after so many bytes. -/
  | closed (received : Nat)
  | fault (fault : SocketFault)
  deriving DecidableEq

/-- Reads packets until there are at least `goal` bytes. -/
def gather (goal : Nat) (buffer : Bytes) (incoming : Incoming) :
    Except Shortfall Bytes × Incoming :=
  if _ : goal ≤ buffer.length then (.ok buffer, incoming)
  else
    match incoming.read packetSize with
    | (.error fault, rest) => (.error (.fault fault), rest)
    | (.ok bytes, rest) =>
      if _ : bytes = [] then (.error (.closed buffer.length), rest)
      else gather goal (buffer ++ bytes) rest
termination_by goal - buffer.length
decreasing_by
  have := List.length_pos_iff.2 ‹¬ bytes = []›
  simp only [List.length_append]
  omega

/-- Why there is no header. -/
def headerError : Shortfall → ClientError
  | .closed _ => .noResponse
  | .fault .reset => .noResponse
  | .fault fault => .socket fault

/-- Why there is no payload of a size. -/
def payloadError (expected : Nat) : Shortfall → ClientError
  | .closed received => .truncated expected (received - responseHeaderSize)
  | .fault fault => .socket fault

/-- The response that arrives. -/
def receive (incoming : Incoming) : Except ClientError Response := do
  let (front, rest) := gather responseHeaderSize [] incoming
  let buffer ← front.mapError headerError
  let header ← (ResponseHeader.decode buffer).mapError .wire
  let expected := header.payloadSize.toNat
  let (whole, _) := gather (responseHeaderSize + expected) buffer rest
  let buffer ← whole.mapError (payloadError expected)
  (Response.decode header (buffer.drop responseHeaderSize)).mapError .wire

end Reception

end MessageRelay.Client
