import MessageRelay.Protocol.Sizes
import MessageRelay.Bytes

/-!
# Packets

A message that is shorter than a packet is sent as one packet, filled up with zero bytes. A longer
one is cut into packets, the last of which the relay sends as short as it is and a client fills up.
-/

set_option autoImplicit false

namespace MessageRelay.Protocol.Framing

/-- The packet size that is used when a size is asked for: it is never zero. -/
def effectiveSize (size : Nat) : Nat :=
  max size 1

/-- Pieces of `size` bytes, the last one as short as it comes out. -/
def cut (size : Nat) (message : Bytes) : List Bytes :=
  if message.isEmpty ∨ size = 0 then []
  else message.take size :: cut size (message.drop size)
termination_by message.length
decreasing_by
  rename_i h
  cases message with
  | nil => simp at h
  | cons b rest => simp at h ⊢; omega

/-- The packets in which the relay sends a message. -/
def split (size : Nat) (message : Bytes) : List Bytes :=
  let size := effectiveSize size
  if message.length < size then [Bytes.padTo size message] else cut size message

/-- The packets in which a client sends a message. -/
def splitPadded (size : Nat) (message : Bytes) : List Bytes :=
  (split size message).map (Bytes.padTo (effectiveSize size))

end MessageRelay.Protocol.Framing
