import MessageRelay.Bytes

/-!
# The 32-bit cyclic redundancy check

The check value of IEEE 802.3: the remainder of the message by a polynomial over two elements, with
the bits of each byte taken lowest first, the register started at all ones and complemented at the
end. The register after a concatenation is the register of the second part started from that of the
first (`register_append`).
-/

set_option autoImplicit false

namespace MessageRelay.Crc32

/-- The polynomial, its highest power left out and its bits in reverse. -/
def polynomial : UInt32 := 0xEDB88320

/-- The register after one bit. -/
def shift (register : UInt32) : UInt32 :=
  if register &&& 1 == 1 then (register >>> 1) ^^^ polynomial else register >>> 1

/-- The register after one byte. -/
def absorb (register : UInt32) (b : UInt8) : UInt32 :=
  shift (shift (shift (shift (shift (shift (shift (shift (register ^^^ b.toUInt32))))))))

/-- The register after all bytes. -/
def register (start : UInt32) (bytes : Bytes) : UInt32 :=
  bytes.foldl absorb start

/-- The check value of a byte string. -/
def checksum (bytes : Bytes) : UInt32 :=
  register 0xFFFFFFFF bytes ^^^ 0xFFFFFFFF

/-- The register goes on over the second byte string from where the first one left it. -/
theorem register_append (start : UInt32) (a b : Bytes) :
    register start (a ++ b) = register (register start a) b := by
  simp [register]

/-- The check value that the standard gives for the nine digits from 1 to 9. -/
example : checksum [49, 50, 51, 52, 53, 54, 55, 56, 57] = 0xCBF43926 := by decide +kernel

end MessageRelay.Crc32
