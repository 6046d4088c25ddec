import MessageRelay.Text.Blank
import MessageRelay.Text.Decimal
import MessageRelay.Timestamp

/-!
# Moments as RFC 3339 text

Moments are written in universal time, ending in `Z`, with as many groups of three fraction digits
as they need. A year outside the four digits of the standard carries its sign. Reading is more
generous: blanks may stand in front of every number and every mark, a `t` or a single space may
stand for the `T`, numbers may have fewer digits, a fraction may have any number of digits of which
nine count, and the offset may be `Z`, `UTC` or hours and minutes with or without a colon.
-/

set_option autoImplicit false

namespace MessageRelay.Timestamp

open MessageRelay.Text

/-- A year, with its sign if it is not a number of four digits. -/
def yearText (year : Int) : List Char :=
  if 0 ≤ year ∧ year ≤ 9999 then decimalOfWidth 4 year.toNat
  else (if year < 0 then '-' else '+') :: decimalOfWidth 4 year.natAbs

/-- The fraction of a second with its point, in no, three, six or nine digits. -/
def fractionText (nanosecond : Nat) : List Char :=
  if nanosecond = 0 then []
  else if nanosecond % 1000000 = 0 then '.' :: decimalOfWidth 3 (nanosecond / 1000000)
  else if nanosecond % 1000 = 0 then '.' :: decimalOfWidth 6 (nanosecond / 1000)
  else '.' :: decimalOfWidth 9 nanosecond

/-- The text of a moment. -/
def toText (t : Timestamp) : String :=
  String.ofList
    (yearText t.date.year ++ '-' :: decimalOfWidth 2 t.date.month ++ '-' :: decimalOfWidth 2 t.date.day
      ++ 'T' :: decimalOfWidth 2 t.hour ++ ':' :: decimalOfWidth 2 t.minute
      ++ ':' :: decimalOfWidth 2 t.second ++ fractionText t.nanosecond ++ ['Z'])

/-- A number of at least one and at most `width` digits. -/
def readNumber (width : Nat) (cs : List Char) : Option (Nat × List Char) :=
  let digits := (cs.take width).takeWhile isDigit
  (digits? 10 digits).map fun n => (n, cs.drop digits.length)

/-- A year: up to four digits, or any number of them after a sign. -/
def readYear (cs : List Char) : Option (Int × List Char) :=
  match trimStart cs with
  | '-' :: rest => (readNumber rest.length rest).map fun (n, rest') => (-(n : Int), rest')
  | '+' :: rest => (readNumber rest.length rest).map fun (n, rest') => ((n : Int), rest')
  | rest => (readNumber 4 rest).map fun (n, rest') => ((n : Int), rest')

/-- A number of one or two digits after blanks. -/
def readPair (cs : List Char) : Option (Nat × List Char) :=
  readNumber 2 (trimStart cs)

/-- The text after a mark, which blanks may precede. -/
def skipMark (mark : Char) (cs : List Char) : Option (List Char) :=
  match trimStart cs with
  | c :: rest => if c = mark then some rest else none
  | [] => none

/-- The fraction of a second, if there is a point: nine digits count, more are passed over. -/
def readFraction (cs : List Char) : Option (Nat × List Char) :=
  match cs with
  | '.' :: rest =>
    let digits := rest.takeWhile isDigit
    let kept := digits.take 9
    (digits? 10 kept).map fun n => (n * Nat.pow 10 (9 - kept.length), rest.drop digits.length)
  | _ => some (0, cs)

/-- The minutes by which a clock is ahead of universal time. -/
def readOffset (cs : List Char) : Option (Int × List Char) :=
  match cs with
  | 'Z' :: rest => some (0, rest)
  | 'z' :: rest => some (0, rest)
  | u :: t :: c :: rest =>
    if u.toUpper = 'U' ∧ t.toUpper = 'T' ∧ c.toUpper = 'C' then some (0, rest)
    else if u = '+' ∨ u = '-' ∨ u = '\u2212' then do
      let hours ← digits? 10 [t, c]
      match rest.dropWhile fun x => x = ':' || isBlank x with
      | m :: n :: rest' =>
        let minutes ← digits? 10 [m, n]
        if minutes < 60 then
          let ahead : Int := hours * 60 + minutes
          some (if u = '+' then ahead else -ahead, rest')
        else none
      | _ => none
    else none
  | _ => none

/-- The moment that a text states. -/
def ofText? (text : String) : Option Timestamp := do
  let (year, cs) ← readYear text.toList
  let cs ← skipMark '-' cs
  let (month, cs) ← readPair cs
  let cs ← skipMark '-' cs
  let (day, cs) ← readPair cs
  let cs ← match cs with
    | c :: rest => if c = 'T' ∨ c = 't' ∨ c = ' ' then some rest else none
    | [] => none
  let (hour, cs) ← readPair cs
  let cs ← skipMark ':' cs
  let (minute, cs) ← readPair cs
  let cs ← skipMark ':' cs
  let (second, cs) ← readPair cs
  let (nanosecond, cs) ← readFraction cs
  let (offset, cs) ← readOffset (trimStart cs)
  if trimStart cs ≠ [] ∨ 1440 ≤ offset.natAbs then none
  else do
    let date ← Date.ofCivil? year month day
    let shown ← ofParts? date hour minute second nanosecond
    ofOffset? shown offset

end MessageRelay.Timestamp
