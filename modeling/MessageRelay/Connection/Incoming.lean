import MessageRelay.Bytes

/-!
# What arrives on a connection

The bytes of a connection arrive in chunks, and a read may fail. A read takes as much of the first
chunk as it has room for and leaves the rest of it for the next read. A read that takes nothing
means that the other side is gone; so does every read after the last chunk.
-/

set_option autoImplicit false

namespace MessageRelay.Connection

/-- Why a read or a write fails. -/
inductive SocketFault where
  /-- The other side broke the connection off. -/
  | reset
  /-- Any other reason, in words. -/
  | other (reason : String)
  deriving DecidableEq

def SocketFault.message : SocketFault → String
  | .reset => "Connection reset by peer (os error 104)"
  | .other reason => reason

/-- What a read finds. -/
inductive Arrival where
  | chunk (bytes : Bytes)
  | fault (fault : SocketFault)
  deriving DecidableEq

/-- What is still to be read, in order. -/
abbrev Incoming : Type := List Arrival

namespace Incoming

/-- One read with room for `room` bytes, and what is left after it. -/
def read (room : Nat) : Incoming → Except SocketFault Bytes × Incoming
  | [] => (.ok [], [])
  | .fault fault :: rest => (.error fault, rest)
  | .chunk bytes :: rest =>
    if bytes.length ≤ room then (.ok bytes, rest)
    else (.ok (bytes.take room), .chunk (bytes.drop room) :: rest)

/-- The bytes that are still to be read. -/
def remaining (incoming : Incoming) : Bytes :=
  incoming.flatMap fun
    | .chunk bytes => bytes
    | .fault _ => []

/-- A read never brings more bytes than there is room for. -/
theorem length_le_of_read {room : Nat} {incoming rest : Incoming} {bytes : Bytes}
    (h : incoming.read room = (.ok bytes, rest)) : bytes.length ≤ room := by
  unfold read at h
  split at h
  · cases h; simp
  · cases h
  · split at h
    · cases h; assumption
    · cases h; simp only [List.length_take]; omega

end Incoming

end MessageRelay.Connection
