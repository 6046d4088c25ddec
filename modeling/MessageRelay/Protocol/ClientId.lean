import MessageRelay.Bytes
import MessageRelay.Protocol.Sizes

/-!
# Client identifiers

An identifier is sixteen bytes, written as they are on the wire and as hexadecimal digits in logs.
-/

set_option autoImplicit false

namespace MessageRelay.Protocol

/-- The identifier that the relay issues to a client. -/
structure ClientId where
  bytes : Bytes
  /-- There are as many bytes as the wire gives an identifier. -/
  length_bytes : bytes.length = clientIdSize
  deriving DecidableEq

namespace ClientId

/-- The identifier at the front of a byte string, filled up with zero bytes if that is shorter. -/
def ofBytes (bytes : Bytes) : ClientId :=
  ⟨Bytes.padTo clientIdSize (bytes.take clientIdSize), by
    simp only [Bytes.padTo, List.length_append, List.length_replicate, List.length_take]
    omega⟩

/-- The identifier of a client that has none yet: all zero bytes. -/
def unregistered : ClientId :=
  ofBytes []

/-- The hexadecimal digits of an identifier. -/
def text (id : ClientId) : String :=
  Bytes.hex id.bytes

/-- Reading an identifier ignores what follows it. -/
theorem ofBytes_append (id : ClientId) (rest : Bytes) : ofBytes (id.bytes ++ rest) = id := by
  obtain ⟨bytes, h⟩ := id
  have ht : (bytes ++ rest).take clientIdSize = bytes := by
    rw [List.take_append_of_le_length (by omega), ← h, List.take_length]
  simp [ofBytes, ht, Bytes.padTo, h]

end ClientId

end MessageRelay.Protocol
