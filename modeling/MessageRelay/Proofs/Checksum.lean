import Mathlib.Logic.Function.Basic
import MessageRelay.Crc32

/-!
# Check values tell a changed byte

A register that takes in one more bit can be undone: the polynomial sets the highest bit, which a
shift alone leaves clear, so that the bit that was shifted out can be told (`shift_injective`).
Hence registers that differ stay different, whatever is taken in behind, and byte strings of any
length that differ in one place have different check values (`checksum_ne_of_byte`).
-/

set_option autoImplicit false

namespace MessageRelay.Crc32

/-- The low bit of the register tells odd numbers from even ones. -/
theorem toNat_and_one (register : UInt32) : (register &&& 1).toNat = register.toNat % 2 := by
  rw [UInt32.toNat_and, UInt32.toNat_one, Nat.and_one_is_mod]

/-- Shifting the register by one bit halves the number it holds. -/
theorem toNat_shift_right (register : UInt32) : (register >>> 1).toNat = register.toNat / 2 := by
  rw [UInt32.toNat_shiftRight, Nat.shiftRight_eq_div_pow]
  rfl

/-- What is shifted out is the lowest bit, and nothing else is lost. -/
theorem eq_of_shift_right {a b : UInt32} (low : a &&& 1 = b &&& 1) (high : a >>> 1 = b >>> 1) :
    a = b := by
  have low' := congrArg UInt32.toNat low
  have high' := congrArg UInt32.toNat high
  rw [toNat_and_one, toNat_and_one] at low'
  rw [toNat_shift_right, toNat_shift_right] at high'
  apply UInt32.toNat_inj.1
  omega

/-- No two shifted registers differ by the polynomial, whose highest bit is set. -/
theorem shift_right_xor_ne (a b : UInt32) : (a >>> 1) ^^^ polynomial ≠ b >>> 1 := by
  intro same
  have small : ∀ register : UInt32, (register >>> 1).toNat < 2 ^ 31 := by
    intro register
    have bound := register.toNat_lt
    rw [toNat_shift_right]
    omega
  have apart : polynomial = (a >>> 1) ^^^ (b >>> 1) := by
    rw [← same, ← UInt32.xor_assoc, UInt32.xor_self, UInt32.zero_xor]
  have below := Nat.xor_lt_two_pow (small a) (small b)
  rw [← UInt32.toNat_xor, ← apart] at below
  exact absurd below (by decide)

/-- A step of one bit loses nothing of the register: the low bit that falls out is seen from the
highest bit of what is left. -/
theorem shift_injective : Function.Injective shift := by
  intro a b same
  have bit : ∀ register : UInt32, register &&& 1 = 0 ∨ register &&& 1 = 1 := by
    intro register
    have parity := Nat.mod_two_eq_zero_or_one register.toNat
    rw [← toNat_and_one] at parity
    exact parity.imp (fun h => UInt32.toNat_inj.1 h) fun h => UInt32.toNat_inj.1 h
  unfold shift at same
  obtain even | odd := bit a
  · obtain even' | odd' := bit b
    · rw [even, even'] at same
      exact eq_of_shift_right (even.trans even'.symm) same
    · rw [even, odd'] at same
      exact absurd same.symm (shift_right_xor_ne b a)
  · obtain even' | odd' := bit b
    · rw [odd, even'] at same
      exact absurd same (shift_right_xor_ne a b)
    · rw [odd, odd'] at same
      exact eq_of_shift_right (odd.trans odd'.symm) ((UInt32.xor_left_inj _).1 same)

/-- The register after eight bits gives back what was shifted. -/
theorem eq_of_absorb_eq {a b : UInt32} {x y : UInt8} (same : absorb a x = absorb b y) :
    a ^^^ x.toUInt32 = b ^^^ y.toUInt32 := by
  unfold absorb at same
  iterate 8 replace same := shift_injective same
  exact same

/-- Registers that differ still do behind any bytes. -/
theorem register_injective (bytes : Bytes) :
    Function.Injective fun start => register start bytes := by
  induction bytes with
  | nil => exact fun _ _ same => same
  | cons b bytes ih =>
    intro start start' same
    exact (UInt32.xor_left_inj _).1 (eq_of_absorb_eq (ih same))

/-- A byte that is changed changes the check value. -/
theorem checksum_ne_of_byte {x y : UInt8} (differ : x ≠ y) (front back : Bytes) :
    checksum (front ++ x :: back) ≠ checksum (front ++ y :: back) := by
  intro same
  have registers := (UInt32.xor_left_inj _).1 same
  rw [register_append, register_append] at registers
  have first := eq_of_absorb_eq (register_injective back registers)
  have bytes := (UInt32.xor_right_inj _).1 first
  apply differ
  rw [← UInt8.toUInt32_inj, bytes]

end MessageRelay.Crc32
