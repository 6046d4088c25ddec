import MessageRelay.Protocol.Framing

/-!
# What packets carry

The packets of the relay, put together again, are the message, filled up with zero bytes if it is
shorter than a packet. Those of a client are the message with zero bytes behind it, whatever its
length.
-/

set_option autoImplicit false

namespace MessageRelay.Protocol.Framing

/-- Packets have room for at least one byte. -/
theorem effectiveSize_pos (size : Nat) : 0 < effectiveSize size := by
  unfold effectiveSize
  omega

/-- Cutting ends with the message. -/
theorem eq_nil_of_cut {size : Nat} (h : 0 < size) {message : Bytes}
    (done : message.isEmpty ∨ size = 0) : message = [] := by
  obtain empty | zero := done
  · simpa using empty
  · omega

/-- A message is only cut on if there is something left of it, and by a size that is not zero. -/
theorem pos_of_cut {size : Nat} {message : Bytes} (more : ¬ (message.isEmpty ∨ size = 0)) :
    0 < size ∧ 0 < message.length := by
  simp only [List.isEmpty_iff, not_or, ← List.length_pos_iff] at more
  omega

/-- The pieces of a message join up to it. -/
theorem flatten_cut {size : Nat} (h : 0 < size) (message : Bytes) :
    (cut size message).flatten = message := by
  fun_induction cut size message with
  | case1 message done => rw [eq_nil_of_cut h done, List.flatten_nil]
  | case2 message more ih => rw [List.flatten_cons, ih, List.take_append_drop]

/-- Pieces of the full size are cut out of what they join up to. -/
theorem cut_flatten {size : Nat} (h : 0 < size) {pieces : List Bytes}
    (full : ∀ piece ∈ pieces, piece.length = size) : cut size pieces.flatten = pieces := by
  induction pieces with
  | nil => rw [List.flatten_nil, cut, if_pos (.inl rfl)]
  | cons piece pieces ih =>
    rw [List.forall_mem_cons] at full
    have more : ¬ ((piece ++ pieces.flatten).isEmpty ∨ size = 0) := by
      rw [List.isEmpty_iff, ← List.length_eq_zero_iff, List.length_append]
      omega
    rw [List.flatten_cons, cut, if_neg more, List.take_left' full.1, List.drop_left' full.1,
      ih full.2]

/-- No piece is empty or longer than the size. -/
theorem bounds_of_mem_cut {size : Nat} {message piece : Bytes} (h : piece ∈ cut size message) :
    piece ≠ [] ∧ piece.length ≤ size := by
  fun_induction cut size message with
  | case1 => cases h
  | case2 message more ih =>
    obtain rfl | later := List.mem_cons.1 h
    · have positive := pos_of_cut more
      refine ⟨List.ne_nil_of_length_pos ?_, List.length_take_le _ _⟩
      rw [List.length_take]
      omega
    · exact ih later

/-- All pieces have the size if it divides the length of the message. -/
theorem length_of_mem_cut {size : Nat} {message piece : Bytes} (whole : size ∣ message.length)
    (h : piece ∈ cut size message) : piece.length = size := by
  fun_induction cut size message with
  | case1 => cases h
  | case2 message more ih =>
    obtain rfl | later := List.mem_cons.1 h
    · exact List.length_take_of_le (Nat.le_of_dvd (pos_of_cut more).2 whole)
    · refine ih ?_ later
      rw [List.length_drop]
      exact Nat.dvd_sub whole (Nat.dvd_refl size)

/-- The packets of a message join up to it, made as long as one packet if it is shorter. -/
theorem flatten_split (size : Nat) (message : Bytes) :
    (split size message).flatten = message.padTo (effectiveSize size) := by
  unfold split
  by_cases short : message.length < effectiveSize size
  · simp only [if_pos short, List.flatten_cons, List.flatten_nil, List.append_nil]
  · have full : effectiveSize size - message.length = 0 := by omega
    rw [if_neg short, flatten_cut (effectiveSize_pos size), Bytes.padTo, full,
      List.replicate_zero, List.append_nil]

/-- Only the last piece of a message is filled up: the others are as long as a packet. -/
theorem exists_flatten_map_padTo_cut {size : Nat} (h : 0 < size) (message : Bytes) :
    ∃ count, ((cut size message).map (Bytes.padTo size)).flatten
      = message ++ List.replicate count 0 := by
  fun_induction cut size message with
  | case1 message done => exact ⟨0, by rw [eq_nil_of_cut h done]; rfl⟩
  | case2 message more ih =>
    obtain ⟨count, rest⟩ := ih
    rw [List.map_cons, List.flatten_cons, rest, Bytes.padTo]
    by_cases last : message.length ≤ size
    · refine ⟨size - (message.take size).length + count, ?_⟩
      rw [List.drop_of_length_le last, List.nil_append, List.append_assoc,
        List.replicate_append_replicate, List.take_of_length_le last]
    · have full : size - (message.take size).length = 0 := by
        rw [List.length_take]
        omega
      refine ⟨count, ?_⟩
      rw [full, List.replicate_zero, List.append_nil, ← List.append_assoc, List.take_append_drop]

/-- The packets of a client join up to its message with zeros behind it. -/
theorem exists_flatten_splitPadded (size : Nat) (message : Bytes) :
    ∃ count, (splitPadded size message).flatten = message ++ List.replicate count 0 := by
  unfold splitPadded split
  by_cases short : message.length < effectiveSize size
  · have full : effectiveSize size - (message.padTo (effectiveSize size)).length = 0 := by
      rw [Bytes.padTo, List.length_append, List.length_replicate]
      omega
    refine ⟨effectiveSize size - message.length, ?_⟩
    simp only [if_pos short, List.map_cons, List.map_nil, List.flatten_cons, List.flatten_nil,
      List.append_nil]
    rw [Bytes.padTo, full, List.replicate_zero, List.append_nil, Bytes.padTo]
  · simp only [if_neg short]
    exact exists_flatten_map_padTo_cut (effectiveSize_pos size) message

end MessageRelay.Protocol.Framing
