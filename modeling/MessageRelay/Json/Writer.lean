import MessageRelay.Json.Value

/-!
# Writing JSON

A value is written either without any blanks or over lines, with two spaces for each level of
nesting. Of the control characters five have short escapes and the others are written with four
hexadecimal digits.
-/

set_option autoImplicit false

namespace MessageRelay

namespace StringPiece

/-- A piece as it is written. -/
def written : StringPiece → Bytes
  | .byte b => [b]
  | .unit u =>
    if u = 0x22 then [0x5C, 0x22]
    else if u = 0x5C then [0x5C, 0x5C]
    else if u = 0x08 then [0x5C, 0x62]
    else if u = 0x09 then [0x5C, 0x74]
    else if u = 0x0A then [0x5C, 0x6E]
    else if u = 0x0C then [0x5C, 0x66]
    else if u = 0x0D then [0x5C, 0x72]
    else
      let digit (n : Nat) : UInt8 := UInt8.ofNat (Bytes.hexDigit (n % 16)).toNat
      [0x5C, 0x75, digit (u.toNat / 4096), digit (u.toNat / 256), digit (u.toNat / 16),
        digit u.toNat]

/-- A string between its quotes. -/
def writtenAll (pieces : List StringPiece) : Bytes :=
  0x22 :: pieces.flatMap written ++ [0x22]

end StringPiece

namespace Json

/-- How the parts of an array or object are set apart. -/
inductive Layout where
  /-- Without any blanks. -/
  | compact
  /-- Over lines, at a level of nesting. -/
  | indented (level : Nat)
  deriving DecidableEq

namespace Layout

/-- The layout of the parts of a value. -/
def inner : Layout → Layout
  | .compact => .compact
  | .indented level => .indented (level + 1)

/-- What stands in front of a part, or of the closing bracket. -/
def lineBreak : Layout → Bytes
  | .compact => []
  | .indented level => 0x0A :: List.replicate (2 * level) 0x20

/-- What stands between the name of a field and its value. -/
def colon : Layout → Bytes
  | .compact => [0x3A]
  | .indented _ => [0x3A, 0x20]

end Layout

mutual

/-- A value in a layout. -/
def write (layout : Layout) : Json → Bytes
  | .null => [0x6E, 0x75, 0x6C, 0x6C]
  | .boolean true => [0x74, 0x72, 0x75, 0x65]
  | .boolean false => [0x66, 0x61, 0x6C, 0x73, 0x65]
  | .number literal => literal
  | .string pieces => StringPiece.writtenAll pieces
  | .array [] => [0x5B, 0x5D]
  | .array (item :: items) =>
    0x5B :: layout.inner.lineBreak ++ write layout.inner item ++ writeItems layout.inner items
      ++ layout.lineBreak ++ [0x5D]
  | .object [] => [0x7B, 0x7D]
  | .object ((name, value) :: fields) =>
    0x7B :: layout.inner.lineBreak ++ StringPiece.writtenAll name ++ layout.colon
      ++ write layout.inner value ++ writeFields layout.inner fields ++ layout.lineBreak ++ [0x7D]

/-- The items of an array after the first. -/
def writeItems (layout : Layout) : List Json → Bytes
  | [] => []
  | item :: items => 0x2C :: layout.lineBreak ++ write layout item ++ writeItems layout items

/-- The fields of an object after the first. -/
def writeFields (layout : Layout) : List (List StringPiece × Json) → Bytes
  | [] => []
  | (name, value) :: fields =>
    0x2C :: layout.lineBreak ++ StringPiece.writtenAll name ++ layout.colon ++ write layout value
      ++ writeFields layout fields

end

/-- A value without any blanks. -/
def compact (value : Json) : Bytes :=
  write .compact value

/-- A value over lines, indented by two spaces. -/
def pretty (value : Json) : Bytes :=
  write (.indented 0) value

end Json

end MessageRelay
