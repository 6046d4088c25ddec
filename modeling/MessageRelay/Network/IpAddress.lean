import MessageRelay.Text.Decimal

/-!
# Addresses of the internet protocol

An address is four bytes or eight 16-bit groups. The four bytes are written as decimal numbers with
points between them and without leading zeros. The groups are written as hexadecimal numbers of at
most four digits with colons between them, where two colons stand for one run of zero groups and the
last two groups may be written like four bytes. Written out, the longest run of at least two zero
groups, the first of equal ones, is left out, and an address that stands for four bytes ends in them.
-/

set_option autoImplicit false

namespace MessageRelay.Network

/-- An address. -/
inductive IpAddress where
  | v4 (a b c d : UInt8)
  /-- Eight groups, the most significant first. -/
  | v6 (groups : List UInt16) (length_groups : groups.length = 8)
  deriving DecidableEq

namespace IpAddress

open Text (digitValue? digits?)

/-- The digits of a number at the front. -/
def digitRun (radix : Nat) (cs : List Char) : List Char :=
  cs.takeWhile fun c => (digitValue? radix c).isSome

/-- A byte as a decimal number of up to three digits, without leading zeros. -/
def readByte (cs : List Char) : Option (UInt8 × List Char) :=
  let run := digitRun 10 cs
  if 3 < run.length ∨ (run.head? = some '0' ∧ 1 < run.length) then none
  else
    (digits? 10 run).bind fun n =>
      if n < 256 then some (UInt8.ofNat n, cs.drop run.length) else none

/-- A group as a hexadecimal number of up to four digits. -/
def readGroup (cs : List Char) : Option (UInt16 × List Char) :=
  let run := digitRun 16 cs
  if 4 < run.length then none
  else (digits? 16 run).map fun n => (UInt16.ofNat n, cs.drop run.length)

/-- What follows a character that has to be there. -/
def expect (mark : Char) : List Char → Option (List Char)
  | [] => none
  | c :: rest => if c = mark then some rest else none

/-- Four bytes with points between them. -/
def readFourBytes (cs : List Char) : Option ((UInt8 × UInt8 × UInt8 × UInt8) × List Char) := do
  let (a, cs) ← readByte cs
  let cs ← expect '.' cs
  let (b, cs) ← readByte cs
  let cs ← expect '.' cs
  let (c, cs) ← readByte cs
  let cs ← expect '.' cs
  let (d, cs) ← readByte cs
  some ((a, b, c, d), cs)

/-- Two bytes as a group. -/
def groupOf (high low : UInt8) : UInt16 :=
  UInt16.ofNat (high.toNat * 256 + low.toNat)

/-- Up to `limit` groups with colons between them, of which the last two may be four bytes; whether
they are; and what follows. `first` says that no group was read before. -/
def readGroups : Nat → Bool → List Char → List UInt16 × Bool × List Char
  | 0, _, cs => ([], false, cs)
  | limit + 1, first, cs =>
    let start? := if first then some cs else expect ':' cs
    match start? with
    | none => ([], false, cs)
    | some start =>
      match if 0 < limit then readFourBytes start else none with
      | some ((a, b, c, d), rest) => ([groupOf a b, groupOf c d], true, rest)
      | none =>
        match readGroup start with
        | none => ([], false, cs)
        | some (group, rest) =>
          let (groups, ending, rest') := readGroups limit false rest
          (group :: groups, ending, rest')

/-- An address of eight groups. -/
def ofGroups (groups : List UInt16) : Option IpAddress :=
  if h : groups.length = 8 then some (.v6 groups h) else none

/-- Eight groups, or fewer around two colons that stand for the missing ones. -/
def readEightGroups (cs : List Char) : Option (IpAddress × List Char) :=
  let (head, ending, rest) := readGroups 8 true cs
  if head.length = 8 then (ofGroups head).map fun address => (address, rest)
  else if ending then none
  else do
    let rest ← expect ':' rest
    let rest ← expect ':' rest
    let (tail, _, rest) := readGroups (7 - head.length) true rest
    let address ← ofGroups (head ++ List.replicate (8 - head.length - tail.length) 0 ++ tail)
    some (address, rest)

/-- The address that a text states. A text that begins with four bytes is nothing else. -/
def ofText? (text : String) : Option IpAddress :=
  let cs := text.toList
  match readFourBytes cs with
  | some ((a, b, c, d), rest) => if rest.isEmpty then some (.v4 a b c d) else none
  | none =>
    (readEightGroups cs).bind fun (address, rest) => if rest.isEmpty then some address else none

def fourBytesText (a b c d : UInt8) : String :=
  s!"{a}.{b}.{c}.{d}"

def groupText (group : UInt16) : String :=
  String.ofList (Nat.toDigits 16 group.toNat)

/-- Groups in writing, with colons between them. -/
def groupsText (groups : List UInt16) : String :=
  String.intercalate ":" (groups.map groupText)

/-- Where the first longest run of zero groups starts, and how long it is. The present run ends
before `position` and has `here` groups; the longest one so far is `best`. -/
def longestZeros (position here : Nat) (best : Nat × Nat) : List UInt16 → Nat × Nat
  | [] => best
  | group :: rest =>
    if group = 0 then
      let here := here + 1
      let best := if best.2 < here then (position + 1 - here, here) else best
      longestZeros (position + 1) here best rest
    else longestZeros (position + 1) 0 best rest

/-- An address in writing. -/
def toText : IpAddress → String
  | .v4 a b c d => fourBytesText a b c d
  | .v6 groups _ =>
    match groups with
    | [0, 0, 0, 0, 0, 0xFFFF, x, y] =>
      "::ffff:" ++ fourBytesText (UInt8.ofNat (x.toNat / 256)) (UInt8.ofNat x.toNat)
        (UInt8.ofNat (y.toNat / 256)) (UInt8.ofNat y.toNat)
    | _ =>
      let (start, length) := longestZeros 0 0 (0, 0) groups
      if 1 < length then
        groupsText (groups.take start) ++ "::" ++ groupsText (groups.drop (start + length))
      else groupsText groups

/-- Whether every host has an address: one that names the host itself or all of its addresses. -/
def isEverywhere : IpAddress → Bool
  | .v4 a b c d => a == 127 || (a == 0 && b == 0 && c == 0 && d == 0)
  | .v6 groups _ =>
    groups.dropLast.all (· == 0) && (groups.getLast?.getD 0) ≤ 1
      || (groups.take 6 == [0, 0, 0, 0, 0, 0xFFFF] && (groups.getD 6 0).toNat / 256 == 127)

/-- An address with the number to listen on. -/
def withNumber (address : IpAddress) (number : String) : String :=
  match address with
  | .v4 _ _ _ _ => address.toText ++ ":" ++ number
  | .v6 _ _ => "[" ++ address.toText ++ "]:" ++ number

end IpAddress

end MessageRelay.Network
