import MessageRelay.Json.Value
import MessageRelay.Text.Decimal

/-!
# Reading JSON

The grammar is that of RFC 8259 over bytes: blanks around every token, no comma before a closing
bracket, no leading zeros, and nothing but blanks after the value. Strings are kept as they are
written (see `StringPiece`), so a string that is no text is still read. Each function takes the
bytes from some place on and gives what is left with what it read.
-/

set_option autoImplicit false

namespace MessageRelay.Json

/-- The bytes after the blanks at the front. -/
def skipBlanks (bytes : Bytes) : Bytes :=
  bytes.dropWhile fun b => b == 0x20 || b == 0x09 || b == 0x0A || b == 0x0D

def isDigit (b : UInt8) : Bool :=
  0x30 ≤ b && b ≤ 0x39

/-- At least one digit, with what follows. -/
def readDigits (bytes : Bytes) : Option (Bytes × Bytes) :=
  let digits := bytes.takeWhile isDigit
  if digits.isEmpty then none else some (digits, bytes.drop digits.length)

/-- The integer part of a number: a zero, or digits of which the first is not zero. -/
def readInteger : Bytes → Option (Bytes × Bytes)
  | [] => none
  | b :: rest => if b = 0x30 then some ([b], rest) else readDigits (b :: rest)

/-- The fraction of a number with its point, if there is one. -/
def readFraction : Bytes → Option (Bytes × Bytes)
  | 0x2E :: rest => (readDigits rest).map fun (digits, rest') => (0x2E :: digits, rest')
  | bytes => some ([], bytes)

/-- The exponent of a number with its letter, if there is one. -/
def readExponent : Bytes → Option (Bytes × Bytes)
  | [] => some ([], [])
  | e :: rest =>
    if e = 0x65 ∨ e = 0x45 then
      match rest with
      | s :: rest' =>
        if s = 0x2B ∨ s = 0x2D then
          (readDigits rest').map fun (digits, rest'') => (e :: s :: digits, rest'')
        else
          (readDigits rest).map fun (digits, rest'') => (e :: digits, rest'')
      | [] => none
    else some ([], e :: rest)

/-- A number, as it is written. -/
def readNumber (bytes : Bytes) : Option (Bytes × Bytes) := do
  let (sign, rest) := match bytes with
    | 0x2D :: rest => (([0x2D] : Bytes), rest)
    | _ => (([] : Bytes), bytes)
  let (integer, rest) ← readInteger rest
  let (fraction, rest) ← readFraction rest
  let (exponent, rest) ← readExponent rest
  some (sign ++ integer ++ fraction ++ exponent, rest)

/-- The value of a hexadecimal digit. -/
def hexValue? (b : UInt8) : Option Nat :=
  Text.digitValue? 16 (Char.ofNat b.toNat)

/-- The unit that the letter after a backslash stands for. -/
def shortEscape? (b : UInt8) : Option UInt16 :=
  if b = 0x22 ∨ b = 0x5C ∨ b = 0x2F then some b.toUInt16
  else if b = 0x62 then some 0x08
  else if b = 0x66 then some 0x0C
  else if b = 0x6E then some 0x0A
  else if b = 0x72 then some 0x0D
  else if b = 0x74 then some 0x09
  else none

/-- A string up to its closing quote, of which the opening one has been read. -/
def readString : Bytes → Option (List StringPiece × Bytes)
  | [] => none
  | 0x22 :: rest => some ([], rest)
  | 0x5C :: 0x75 :: a :: b :: c :: d :: rest => do
    let a ← hexValue? a
    let b ← hexValue? b
    let c ← hexValue? c
    let d ← hexValue? d
    let (pieces, rest') ← readString rest
    some (.unit (UInt16.ofNat (((a * 16 + b) * 16 + c) * 16 + d)) :: pieces, rest')
  | 0x5C :: e :: rest => do
    let u ← shortEscape? e
    let (pieces, rest') ← readString rest
    some (.unit u :: pieces, rest')
  | b :: rest =>
    if b = 0x5C then none
    else (readString rest).map fun (pieces, rest') => (.byte b :: pieces, rest')

/-- The name of a field with its colon, of which the opening quote has been read. -/
def readName (bytes : Bytes) : Option (List StringPiece × Bytes) := do
  let (name, rest) ← readString bytes
  match skipBlanks rest with
  | 0x3A :: rest' => some (name, rest')
  | _ => none

mutual

/-- A value, nested at most `depth` deep. -/
def readValue (depth : Nat) (bytes : Bytes) : Option (Json × Bytes) :=
  match depth with
  | 0 => none
  | depth + 1 =>
    match skipBlanks bytes with
    | 0x6E :: 0x75 :: 0x6C :: 0x6C :: rest => some (.null, rest)
    | 0x74 :: 0x72 :: 0x75 :: 0x65 :: rest => some (.boolean true, rest)
    | 0x66 :: 0x61 :: 0x6C :: 0x73 :: 0x65 :: rest => some (.boolean false, rest)
    | 0x22 :: rest => (readString rest).map fun (pieces, rest') => (.string pieces, rest')
    | 0x5B :: rest =>
      match skipBlanks rest with
      | 0x5D :: rest' => some (.array [], rest')
      | _ => (readItems depth rest).map fun (items, rest') => (.array items, rest')
    | 0x7B :: rest =>
      match skipBlanks rest with
      | 0x7D :: rest' => some (.object [], rest')
      | _ => (readFields depth rest).map fun (fields, rest') => (.object fields, rest')
    | rest => (readNumber rest).map fun (literal, rest') => (.number literal, rest')

/-- The items of an array up to its closing bracket, at least one. -/
def readItems (depth : Nat) (bytes : Bytes) : Option (List Json × Bytes) :=
  match depth with
  | 0 => none
  | depth + 1 => do
    let (item, rest) ← readValue depth bytes
    match skipBlanks rest with
    | 0x2C :: rest' => (readItems depth rest').map fun (items, rest'') => (item :: items, rest'')
    | 0x5D :: rest' => some ([item], rest')
    | _ => none

/-- The fields of an object up to its closing brace, at least one. -/
def readFields (depth : Nat) (bytes : Bytes) :
    Option (List (List StringPiece × Json) × Bytes) :=
  match depth with
  | 0 => none
  | depth + 1 =>
    match skipBlanks bytes with
    | 0x22 :: rest => do
      let (name, rest) ← readName rest
      let (value, rest) ← readValue depth rest
      match skipBlanks rest with
      | 0x2C :: rest' =>
        (readFields depth rest').map fun (fields, rest'') => ((name, value) :: fields, rest'')
      | 0x7D :: rest' => some ([(name, value)], rest')
      | _ => none
    | _ => none

end

/-- The value that a byte string is the JSON form of. No text of `n` bytes nests deeper than twice
`n`, so the depth given here never ends the reading. -/
def ofBytes? (bytes : Bytes) : Option Json := do
  let (value, rest) ← readValue (2 * bytes.length + 2) bytes
  if (skipBlanks rest).isEmpty then some value else none

end MessageRelay.Json
