import MessageRelay.Bytes
import MessageRelay.Protocol.Sizes
import MessageRelay.Protocol.WireError
import MessageRelay.Text.Utf8

/-!
# Fields of the wire format

The three fields that are not plain numbers or identifiers: names, which end at their first zero
byte, keys of a fixed width, and lengths of 32 bits.
-/

set_option autoImplicit false

namespace MessageRelay.Protocol

/-- The field of a name: its bytes and zero bytes after them. -/
def encodeName (name : String) : Except WireError Bytes :=
  let bytes := Text.utf8 name
  if bytes.length ≤ maxNameLength then .ok (bytes.padTo nameSize)
  else .error (.wrongWidth .name maxNameLength bytes.length)

/-- The bytes of a field in front of its first zero byte. -/
def nameBytes (field : Bytes) : Bytes :=
  field.takeWhile (· ≠ 0)

/-- The name in a field. -/
def decodeName (field : Bytes) : Except WireError String :=
  match Text.ofUtf8 (nameBytes field) with
  | some name => .ok name
  | none => .error (.badName .notUtf8)

/-- The field of a public key. -/
def encodeKey (key : Bytes) : Except WireError Bytes :=
  if key.length = publicKeySize then .ok key
  else .error (.wrongWidth .publicKey publicKeySize key.length)

/-- A length as a 32-bit number. -/
def encodeLength (n : Nat) : Except WireError UInt32 :=
  if n < 4294967296 then .ok (UInt32.ofNat n) else .error (.tooLong n)

/-- Refuses a byte string that is shorter than a layout needs. -/
def requireSize (layout : Layout) (needed : Nat) (bytes : Bytes) : Except WireError Unit :=
  if bytes.length < needed then .error (.short layout needed bytes.length) else .ok ()

end MessageRelay.Protocol
