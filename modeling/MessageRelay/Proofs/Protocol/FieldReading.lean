import Mathlib.Data.List.TakeWhile
import MessageRelay.Proofs.Protocol.RequestRoundTrip

/-!
# What fields are read from

Reading turned round: the bytes of an identifier that was read are those it was read from, and a name
is read from a field exactly if the bytes in front of its first zero byte are text. Written again, a
name gives its field back with the bytes behind the first zero byte made zero (`cleared`), unless
there is no zero byte in the field; then the name is too long to be written
(`encodeName_of_decodeName`).
-/

set_option autoImplicit false

namespace MessageRelay.Protocol

/-- Two steps that may fail succeed exactly if the first does and then the second. -/
theorem bind_eq_ok_iff {ε α β : Type} {first : Except ε α} {next : α → Except ε β} {b : β} :
    first >>= next = .ok b ↔ ∃ a, first = .ok a ∧ next a = .ok b := by
  cases first with
  | error e => simp [bind, Except.bind]
  | ok a => simp [bind, Except.bind]

/-- A layout is satisfied exactly by as many bytes as it needs or more. -/
theorem requireSize_eq_ok_iff {layout : Layout} {needed : Nat} {bytes : Bytes} {done : Unit} :
    requireSize layout needed bytes = .ok done ↔ needed ≤ bytes.length := by
  unfold requireSize
  split
  · simpa using ‹bytes.length < needed›
  · simpa using ‹¬ bytes.length < needed›

/-- A length that was read is written as the number it was read from. -/
theorem encodeLength_toNat (n : UInt32) : encodeLength n.toNat = .ok n := by
  have bound : n.toNat < 4294967296 := n.toNat_lt
  rw [encodeLength, if_pos bound, UInt32.ofNat_toNat]

/-- The identifier at the front of a byte string is made of its first bytes. -/
theorem ClientId.bytes_ofBytes {bytes : Bytes} (h : clientIdSize ≤ bytes.length) :
    (ofBytes bytes).bytes = bytes.take clientIdSize := by
  have full : clientIdSize - (bytes.take clientIdSize).length = 0 := by
    rw [List.length_take]
    omega
  simp only [ofBytes, Bytes.padTo, full, List.replicate_zero, List.append_nil]

/-! ## The first zero byte -/

/-- The first zero byte of a byte string stands at a place. -/
def FirstZeroAt (bytes : Bytes) (place : Nat) : Prop :=
  bytes[place]? = some 0 ∧ 0 ∉ bytes.take place

/-- The byte string with all bytes behind its first zero byte made zero. -/
def cleared (bytes : Bytes) : Bytes :=
  bytes.mapIdx fun place byte => if 0 ∈ bytes.take place then 0 else byte

/-- The bytes in front of the first zero byte end there, or with the field. -/
theorem nameBytes_eq_take {field : Bytes} {place : Nat} (h : FirstZeroAt field place) :
    nameBytes field = field.take place := by
  obtain ⟨zero, plain⟩ := h
  have rest : field.drop place = 0 :: field.drop (place + 1) := by
    obtain ⟨inside, here⟩ := List.getElem?_eq_some_iff.1 zero
    rw [← here, List.getElem_cons_drop]
  have all : ∀ byte ∈ field.take place, decide (byte ≠ 0) = true := by
    intro byte listed
    exact decide_eq_true fun zero => plain (zero ▸ listed)
  have split : nameBytes (field.take place ++ field.drop place)
      = field.take place ++ nameBytes (field.drop place) := List.takeWhile_append_of_pos all
  rw [List.take_append_drop, rest] at split
  rw [split, nameBytes, List.takeWhile_cons_of_neg (by simp), List.append_nil]

/-- A byte string without a zero byte is in front of its first zero byte as a whole. -/
theorem nameBytes_eq_self {field : Bytes} (plain : 0 ∉ field) : nameBytes field = field := by
  apply List.takeWhile_eq_self_iff.2
  intro byte listed
  exact decide_eq_true fun zero => plain (zero ▸ listed)

/-- A zero byte in a field has one before it, or is the first. -/
theorem firstZeroAt_length_nameBytes {field : Bytes} (zero : 0 ∈ field) :
    FirstZeroAt field (nameBytes field).length := by
  induction field with
  | nil => cases zero
  | cons byte field ih =>
    by_cases first : byte = 0
    · subst first
      exact ⟨rfl, List.not_mem_nil⟩
    · obtain ⟨here, plain⟩ := ih (List.mem_of_ne_of_mem (Ne.symm first) zero)
      have next : nameBytes (byte :: field) = byte :: nameBytes field :=
        List.takeWhile_cons_of_pos (decide_eq_true first)
      rw [next, List.length_cons]
      refine ⟨here, ?_⟩
      rw [List.take_succ_cons, List.mem_cons, not_or]
      exact ⟨Ne.symm first, plain⟩

/-- A byte string with a first zero byte has a zero byte. -/
theorem FirstZeroAt.mem {bytes : Bytes} {place : Nat} (h : FirstZeroAt bytes place) : 0 ∈ bytes :=
  List.mem_of_getElem? h.1

/-- The first zero byte is within the byte string. -/
theorem FirstZeroAt.lt {bytes : Bytes} {place : Nat} (h : FirstZeroAt bytes place) :
    place < bytes.length :=
  (List.getElem?_eq_some_iff.1 h.1).1

/-- Clearing a field keeps what is in front of its first zero byte and fills it up with zero bytes. -/
theorem cleared_eq_padTo (field : Bytes) :
    cleared field = (nameBytes field).padTo field.length := by
  induction field with
  | nil => rfl
  | cons byte field ih =>
    by_cases first : byte = 0
    · subst first
      have none : nameBytes (0 :: field) = [] := List.takeWhile_cons_of_neg (by simp)
      have zeros : cleared (0 :: field) = List.replicate (field.length + 1) 0 := by
        refine List.mapIdx_eq_replicate_iff.2 fun place inside => ?_
        cases place with
        | zero => rfl
        | succ place => rw [if_pos (by simp)]
      rw [zeros, none, Bytes.padTo, List.nil_append]
      rfl
    · have next : nameBytes (byte :: field) = byte :: nameBytes field :=
        List.takeWhile_cons_of_pos (decide_eq_true first)
      have shifted : cleared (byte :: field) = byte :: cleared field := by
        simp only [cleared, List.mapIdx_cons, List.take_zero, List.not_mem_nil, if_false,
          List.take_succ_cons, List.mem_cons, Ne.symm first, false_or]
      rw [shifted, ih, next, Bytes.padTo, Bytes.padTo, List.length_cons, List.length_cons,
        Nat.add_sub_add_right, List.cons_append]

/-! ## Names -/

/-- A name is read from a field exactly if its bytes are those up to the first zero byte. -/
theorem decodeName_eq_ok_iff {field : Bytes} {name : String} :
    decodeName field = .ok name ↔ nameBytes field = Text.utf8 name := by
  unfold decodeName
  constructor
  · intro h
    split at h
    · rename_i text read
      cases h
      exact Text.utf8_of_ofUtf8 read
    · cases h
  · intro same
    rw [same, Text.ofUtf8_utf8]

/-- No name that is read has a zero byte. -/
theorem not_mem_utf8_of_decodeName {field : Bytes} {name : String}
    (h : decodeName field = .ok name) : 0 ∉ Text.utf8 name := by
  rw [← decodeName_eq_ok_iff.1 h]
  intro zero
  have kept := List.mem_takeWhile_imp zero
  simp at kept

/-- A name is read from a field exactly if the bytes in front of its first zero byte are text. -/
theorem exists_decodeName_iff {field : Bytes} :
    (∃ name, decodeName field = .ok name) ↔ Text.IsText (nameBytes field) :=
  exists_congr fun _ => decodeName_eq_ok_iff

/-- A name that was read is written as its field with the bytes behind the first zero byte made zero.
If no zero byte ends it, it fills the field and is too long. -/
theorem encodeName_of_decodeName {field : Bytes} {name : String}
    (read : decodeName field = .ok name) (width : field.length = nameSize) :
    encodeName name = if 0 ∈ field then .ok (cleared field)
      else .error (.wrongWidth .name maxNameLength nameSize) := by
  rw [decodeName_eq_ok_iff] at read
  by_cases zero : 0 ∈ field
  · have ends := (firstZeroAt_length_nameBytes zero).lt
    have short : (nameBytes field).length ≤ maxNameLength := by
      unfold maxNameLength
      omega
    rw [if_pos zero, encodeName, ← read, if_pos short, cleared_eq_padTo, width]
  · have whole := nameBytes_eq_self zero
    have long : ¬ nameSize ≤ maxNameLength := by decide
    rw [if_neg zero, encodeName, ← read, whole, width, if_neg long]

end MessageRelay.Protocol
