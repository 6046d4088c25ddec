/-!
# Byte strings

Byte strings are lists of octets. This file holds the numbers written into them, lowest byte first,
the zero bytes that fill a field or a packet, and the hexadecimal text of identifiers.
`toNat_ofNat` says that a number comes back from the bytes it was written as, and `length_ofNat`
that it takes exactly the bytes it was given.
-/

set_option autoImplicit false

namespace MessageRelay

/-- A byte string. -/
abbrev Bytes : Type := List UInt8

namespace Bytes

/-- The `width` low-order bytes of a number, lowest first. -/
def ofNat : Nat → Nat → Bytes
  | 0, _ => []
  | width + 1, n => UInt8.ofNat n :: ofNat width (n / 256)

/-- The number whose bytes, lowest first, are given. -/
def toNat : Bytes → Nat
  | [] => 0
  | b :: rest => b.toNat + 256 * toNat rest

/-- The 16-bit number at the front of a byte string. -/
def toUInt16 (bytes : Bytes) : UInt16 :=
  UInt16.ofNat (toNat (bytes.take 2))

/-- The 32-bit number at the front of a byte string. -/
def toUInt32 (bytes : Bytes) : UInt32 :=
  UInt32.ofNat (toNat (bytes.take 4))

def ofUInt16 (n : UInt16) : Bytes :=
  ofNat 2 n.toNat

def ofUInt32 (n : UInt32) : Bytes :=
  ofNat 4 n.toNat

/-- The `size` bytes that start after the first `start` ones, as far as there are any. -/
def slice (start size : Nat) (bytes : Bytes) : Bytes :=
  (bytes.drop start).take size

/-- The bytes followed by as many zero bytes as are needed to reach `size`. -/
def padTo (size : Nat) (bytes : Bytes) : Bytes :=
  bytes ++ List.replicate (size - bytes.length) 0

/-- The lower-case hexadecimal digit of a number below sixteen. -/
def hexDigit (n : Nat) : Char :=
  if n < 10 then Char.ofNat (48 + n) else Char.ofNat (87 + n)

/-- Two hexadecimal digits for each byte. -/
def hex (bytes : Bytes) : String :=
  String.ofList (bytes.flatMap fun b => [hexDigit (b.toNat / 16), hexDigit (b.toNat % 16)])

/-- A number takes as many bytes as it is given. -/
@[simp] theorem length_ofNat (width n : Nat) : (ofNat width n).length = width := by
  induction width generalizing n with
  | zero => rfl
  | succ width ih => simp [ofNat, ih]

/-- A number that fits comes back from the bytes it was written as. -/
theorem toNat_ofNat (width n : Nat) (h : n < Nat.pow 256 width) : toNat (ofNat width n) = n := by
  induction width generalizing n with
  | zero =>
    have none : n = 0 := Nat.lt_one_iff.1 h
    rw [none, ofNat, toNat]
  | succ width ih =>
    have hq : n / 256 < Nat.pow 256 width := by
      have h : n < Nat.pow 256 width * 256 := h
      exact Nat.div_lt_of_lt_mul (by rw [Nat.mul_comm]; exact h)
    simp only [ofNat, toNat, ih _ hq, UInt8.toNat_ofNat']
    omega

/-- A number of 16 bits takes two bytes. -/
@[simp] theorem length_ofUInt16 (n : UInt16) : (ofUInt16 n).length = 2 := by
  simp [ofUInt16]

/-- A number of 32 bits takes four bytes. -/
@[simp] theorem length_ofUInt32 (n : UInt32) : (ofUInt32 n).length = 4 := by
  simp [ofUInt32]

/-- Reading a 16-bit number ignores what follows its two bytes. -/
theorem toUInt16_ofUInt16_append (n : UInt16) (rest : Bytes) :
    toUInt16 (ofUInt16 n ++ rest) = n := by
  have h : ((ofUInt16 n ++ rest).take 2) = ofUInt16 n := by
    rw [List.take_append_of_le_length (by simp)]
    exact List.take_of_length_le (by simp)
  rw [toUInt16, h, ofUInt16, toNat_ofNat 2 _ n.toNat_lt]
  exact UInt16.ofNat_toNat

/-- Reading a 32-bit number ignores what follows its four bytes. -/
theorem toUInt32_ofUInt32_append (n : UInt32) (rest : Bytes) :
    toUInt32 (ofUInt32 n ++ rest) = n := by
  have h : ((ofUInt32 n ++ rest).take 4) = ofUInt32 n := by
    rw [List.take_append_of_le_length (by simp)]
    exact List.take_of_length_le (by simp)
  rw [toUInt32, h, ofUInt32, toNat_ofNat 4 _ n.toNat_lt]
  exact UInt32.ofNat_toNat

/-- The four bytes at the front of a byte string are the number that is read there. -/
theorem ofUInt32_toUInt32 {bytes : Bytes} (h : 4 ≤ bytes.length) :
    ofUInt32 (toUInt32 bytes) = bytes.take 4 := by
  have four : (bytes.take 4).length = 4 := by
    rw [List.length_take]
    omega
  rw [toUInt32]
  match bytes.take 4, four with
  | [a, b, c, d], _ =>
    have ha := a.toNat_lt
    have hb := b.toNat_lt
    have hc := c.toNat_lt
    have hd := d.toNat_lt
    have small : toNat [a, b, c, d] < UInt32.size := by
      simp only [toNat, UInt32.size]
      omega
    rw [ofUInt32, UInt32.toNat_ofNat_of_lt' small]
    simp only [toNat, ofNat, List.cons.injEq, and_true, UInt8.toNat_ofNat', ← UInt8.toNat_inj]
    omega

end Bytes

end MessageRelay
