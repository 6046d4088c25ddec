/-!
# Characters that may show as nothing

The characters with the `Default_Ignorable_Code_Point` property of the Unicode standard, for which a
display that does not support them shows nothing at all. Most of them are formats or extend the
character in front of them; the four fillers of the Hangul script are letters and do neither. They
stand as ranges of code points, each with its first and last member, in increasing order.
-/

set_option autoImplicit false

namespace MessageRelay.Text.DefaultIgnorable

/-- The ranges of code points, in increasing order. -/
def ranges : List (Nat × Nat) :=
  [(0xad, 0xad), (0x34f, 0x34f), (0x61c, 0x61c), (0x115f, 0x1160), (0x17b4, 0x17b5),
   (0x180b, 0x180f), (0x200b, 0x200f), (0x202a, 0x202e), (0x2060, 0x206f), (0x3164, 0x3164),
   (0xfe00, 0xfe0f), (0xfeff, 0xfeff), (0xffa0, 0xffa0), (0xfff0, 0xfff8), (0x1bca0, 0x1bca3),
   (0x1d173, 0x1d17a), (0xe0000, 0xe0fff)]

/-- Whether a character has the property. -/
def contains (c : Char) : Bool :=
  ranges.any fun range => range.1 ≤ c.toNat && c.toNat ≤ range.2

end MessageRelay.Text.DefaultIgnorable
