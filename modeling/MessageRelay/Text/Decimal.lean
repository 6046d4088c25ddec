/-!
# Decimal numbers

Natural numbers read from and written as decimal digits. Only the ten ASCII digits count; a sign, a
blank or a separator is refused unless a function says otherwise.
-/

set_option autoImplicit false

namespace MessageRelay.Text

/-- Whether a character is one of the ten ASCII digits. -/
def isDigit (c : Char) : Bool :=
  48 ≤ c.toNat && c.toNat ≤ 57

/-- The value of a digit in any radix up to thirty-six, letters in either case. -/
def digitValue? (radix : Nat) (c : Char) : Option Nat :=
  let n := c.toNat
  let value :=
    if 48 ≤ n ∧ n ≤ 57 then n - 48
    else if 97 ≤ n ∧ n ≤ 122 then n - 87
    else if 65 ≤ n ∧ n ≤ 90 then n - 55
    else radix
  if value < radix then some value else none

/-- The number with the given digits after those already read into `acc`. -/
def digitsFrom? (radix : Nat) (acc : Nat) : List Char → Option Nat
  | [] => some acc
  | c :: rest => (digitValue? radix c).bind fun d => digitsFrom? radix (acc * radix + d) rest

/-- The number whose digits are given; there must be at least one. -/
def digits? (radix : Nat) : List Char → Option Nat
  | [] => none
  | cs => digitsFrom? radix 0 cs

/-- A decimal number of at most `bound`, which may carry a plus sign. -/
def boundedDecimal? (bound : Nat) (cs : List Char) : Option Nat :=
  let digits := match cs with
    | '+' :: rest => rest
    | _ => cs
  (digits? 10 digits).filter (· ≤ bound)

/-- A decimal number of at least `width` digits, zeros in front. -/
def decimalOfWidth (width n : Nat) : List Char :=
  let digits := Nat.toDigits 10 n
  List.replicate (width - digits.length) '0' ++ digits

end MessageRelay.Text
