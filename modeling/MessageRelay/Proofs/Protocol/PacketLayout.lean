import Mathlib.Algebra.Order.Floor.Div
import MessageRelay.Proofs.Protocol.Packets

/-!
# How many packets there are, and how long

A message goes out in as few packets as can hold it, and in one if it is empty. All of them are full
but the last of the relay's, which is as short as it comes out where the message is longer than a
packet. The packets of a client are those of the relay with the last one filled up, so the zero
bytes behind the message are the fewest that make full packets of it (`packets_lossless_and_few`).
-/

set_option autoImplicit false

namespace MessageRelay

namespace Bytes

variable {size : Nat} {bytes : Bytes}

/-- A byte string that fits a size is padded to exactly this size. -/
theorem length_padTo_of_le (h : bytes.length ≤ size) : (bytes.padTo size).length = size := by
  rw [padTo, List.length_append, List.length_replicate]
  omega

/-- A byte string that fills a size is not padded. -/
theorem padTo_of_length_le (h : size ≤ bytes.length) : bytes.padTo size = bytes := by
  rw [padTo, Nat.sub_eq_zero_of_le h, List.replicate_zero, List.append_nil]

end Bytes

namespace Protocol.Framing

variable {size : Nat} {message packet : Bytes}

/-! ## The pieces of a message -/

/-- One piece more than for what is left behind the first. -/
theorem ceilDiv_eq_succ (h : 0 < size) {length : Nat} (some_ : 0 < length) :
    length ⌈/⌉ size = (length - size) ⌈/⌉ size + 1 := by
  apply eq_of_forall_ge_iff
  intro count
  cases count with
  | zero =>
    rw [ceilDiv_le_iff_le_mul h]
    omega
  | succ count =>
    rw [Nat.add_le_add_iff_right, ceilDiv_le_iff_le_mul h, ceilDiv_le_iff_le_mul h, Nat.mul_succ]
    omega

/-- A message is cut into as many pieces as it takes to hold it. -/
theorem length_cut (h : 0 < size) (message : Bytes) :
    (cut size message).length = message.length ⌈/⌉ size := by
  fun_induction cut size message with
  | case1 message done =>
    rw [eq_nil_of_cut h done, List.length_nil, List.length_nil, zero_ceilDiv]
  | case2 message more ih =>
    rw [List.length_cons, ih, List.length_drop, ceilDiv_eq_succ h (pos_of_cut more).2]

/-- Only the last piece can be shorter than the others. -/
theorem length_of_mem_dropLast_cut (h : packet ∈ (cut size message).dropLast) :
    packet.length = size := by
  fun_induction cut size message with
  | case1 => cases h
  | case2 message more ih =>
    -- A piece that is not the last has another behind it, for which bytes must be left.
    cases rest : cut size (message.drop size) with
    | nil =>
      rw [rest] at h
      cases h
    | cons next pieces =>
      rw [rest, List.dropLast_cons_cons, ← rest] at h
      obtain rfl | later := List.mem_cons.1 h
      · have left : message.drop size ≠ [] := by
          intro none
          rw [none, cut, if_pos (.inl rfl)] at rest
          cases rest
        have longer : size < message.length := by
          rw [← List.length_pos_iff, List.length_drop] at left
          omega
        exact List.length_take_of_le (Nat.le_of_lt longer)
      · exact ih later

/-! ## The packets of the relay -/

/-- A message goes out in as many packets as it takes to hold it, and in at least one. -/
theorem length_split (size : Nat) (message : Bytes) :
    (split size message).length = max 1 (message.length ⌈/⌉ effectiveSize size) := by
  have positive := effectiveSize_pos size
  unfold split
  by_cases short : message.length < effectiveSize size
  · have few : message.length ⌈/⌉ effectiveSize size ≤ 1 := by
      rw [ceilDiv_le_iff_le_mul positive]
      omega
    rw [if_pos short, List.length_singleton, max_eq_left few]
  · have some_ : 0 < message.length := by omega
    rw [if_neg short, length_cut positive, ceilDiv_eq_succ positive some_]
    omega

/-- No packet is empty or larger than the packet size. -/
theorem bounds_of_mem_split (h : packet ∈ split size message) :
    packet ≠ [] ∧ packet.length ≤ effectiveSize size := by
  unfold split at h
  by_cases short : message.length < effectiveSize size
  · rw [if_pos short, List.mem_singleton] at h
    have full : packet.length = effectiveSize size := by
      rw [h]
      exact Bytes.length_padTo_of_le (Nat.le_of_lt short)
    have positive := effectiveSize_pos size
    exact ⟨List.ne_nil_of_length_pos (by omega), Nat.le_of_eq full⟩
  · rw [if_neg short] at h
    exact bounds_of_mem_cut h

/-- All packets but the last one are full. -/
theorem length_of_mem_dropLast_split (h : packet ∈ (split size message).dropLast) :
    packet.length = effectiveSize size := by
  unfold split at h
  by_cases short : message.length < effectiveSize size
  · rw [if_pos short] at h
    cases h
  · rw [if_neg short] at h
    exact length_of_mem_dropLast_cut h

/-- A message that is no longer than a packet is one full packet. -/
theorem length_of_mem_split (short : message.length ≤ effectiveSize size)
    (h : packet ∈ split size message) : packet.length = effectiveSize size := by
  unfold split at h
  by_cases shorter : message.length < effectiveSize size
  · rw [if_pos shorter, List.mem_singleton] at h
    rw [h]
    exact Bytes.length_padTo_of_le short
  · have same : message.length = effectiveSize size := by omega
    rw [if_neg shorter] at h
    exact length_of_mem_cut (same ▸ Nat.dvd_refl _) h

/-! ## The packets of a client -/

/-- Every packet of a client is full. -/
theorem length_of_mem_splitPadded (h : packet ∈ splitPadded size message) :
    packet.length = effectiveSize size := by
  obtain ⟨piece, among, rfl⟩ := List.mem_map.1 h
  exact Bytes.length_padTo_of_le (bounds_of_mem_split among).2

/-- Padding changes no packet but the last one. -/
theorem dropLast_splitPadded (size : Nat) (message : Bytes) :
    (splitPadded size message).dropLast = (split size message).dropLast := by
  rw [splitPadded, ← List.map_dropLast]
  conv_rhs => rw [← List.map_id (split size message).dropLast]
  apply List.map_congr_left
  intro packet among
  exact Bytes.padTo_of_length_le (Nat.le_of_eq (length_of_mem_dropLast_split among).symm)

/-- A client sends as many bytes as its packets hold. -/
theorem length_flatten_splitPadded (size : Nat) (message : Bytes) :
    (splitPadded size message).flatten.length
      = effectiveSize size * max 1 (message.length ⌈/⌉ effectiveSize size) := by
  have full : (splitPadded size message).map List.length
      = List.replicate (splitPadded size message).length (effectiveSize size) :=
    List.map_eq_replicate_iff.2 fun _ => length_of_mem_splitPadded
  rw [List.length_flatten, full, List.sum_replicate_nat, splitPadded, List.length_map,
    length_split, Nat.mul_comm]

/-- No fewer zero bytes make full packets of a message. -/
theorem least_filling {zeros : Nat}
    (h : (splitPadded size message).flatten = message ++ List.replicate zeros 0) :
    IsLeast {count | 0 < message.length + count ∧ effectiveSize size ∣ message.length + count}
      zeros := by
  have positive := effectiveSize_pos size
  have width : message.length + zeros
      = effectiveSize size * max 1 (message.length ⌈/⌉ effectiveSize size) := by
    rw [← length_flatten_splitPadded, h, List.length_append, List.length_replicate]
  refine ⟨⟨?_, ?_⟩, ?_⟩
  · rw [width]
    exact Nat.mul_pos positive (by omega)
  · rw [width]
    exact Nat.dvd_mul_right _ _
  · rintro count ⟨some_, packets, whole⟩
    have one : 1 ≤ packets := by
      rw [whole] at some_
      exact Nat.pos_of_mul_pos_left some_
    have enough : message.length ⌈/⌉ effectiveSize size ≤ packets := by
      rw [ceilDiv_le_iff_le_mul positive]
      omega
    have most := Nat.mul_le_mul_left (effectiveSize size) (max_le one enough)
    omega

/-! ## Both -/

/-- The packets of a message are as many as are needed to hold it, but one at least. Those of the
relay join up to the message, which is filled up to a packet if it is shorter than one; none of them
is empty, and all are as long as a packet but the last one of a message that is longer. Those of a
client are as many, all of them as long as a packet, the same up to the last, and join up to the
message with the fewest zero bytes behind it that make a whole number of packets. A size of zero
counts as one. -/
theorem packets_lossless_and_few (size : Nat) (message : Bytes) :
    let width := max size 1
    let packets := split size message
    let filled := splitPadded size message
    (packets.length = max 1 (message.length ⌈/⌉ width) ∧
      (∀ packet ∈ packets, packet ≠ [] ∧ packet.length ≤ width) ∧
      (∀ packet ∈ packets.dropLast, packet.length = width) ∧
      (message.length ≤ width → ∀ packet ∈ packets, packet.length = width) ∧
      packets.flatten = message ++ List.replicate (width - message.length) 0) ∧
    filled.length = packets.length ∧
      (∀ packet ∈ filled, packet.length = width) ∧
      (∃ zeros, filled.flatten = message ++ List.replicate zeros 0 ∧
        IsLeast {count | 0 < message.length + count ∧ width ∣ message.length + count} zeros) ∧
      filled.dropLast = packets.dropLast := by
  have many : (splitPadded size message).length = (split size message).length :=
    List.length_map _
  obtain ⟨zeros, joined⟩ := exists_flatten_splitPadded size message
  exact ⟨⟨length_split size message, fun _ => bounds_of_mem_split,
      fun _ => length_of_mem_dropLast_split, fun short _ => length_of_mem_split short,
      flatten_split size message⟩,
    many, fun _ => length_of_mem_splitPadded, ⟨zeros, joined, least_filling joined⟩,
    dropLast_splitPadded size message⟩

example : (split 4 [1, 2, 3, 4, 5]).map List.length = [4, 1] ∧
    (splitPadded 4 [1, 2, 3, 4, 5]).flatten = [1, 2, 3, 4, 5, 0, 0, 0] := by
  decide +kernel

end Protocol.Framing

end MessageRelay
