import Mathlib.Algebra.GroupWithZero.Nat
import MessageRelay.Proofs.Protocol.RequestRoundTrip
import MessageRelay.Protocol.Response

/-!
# Responses come back from their bytes

A response is read back from its header and whatever starts with its payload, as long as no name in
it has a zero byte (`decode_of_encodePayload`). The entries of a list are read one after the other,
each of them from the bytes that it was written as.
-/

set_option autoImplicit false

namespace MessageRelay.Protocol

/-- A list is worked through if its first item and the others are. -/
theorem mapM_cons_eq_ok_iff {α β ε : Type} (f : α → Except ε β) (a : α) (as : List α)
    (bs : List β) :
    (a :: as).mapM f = .ok bs ↔ ∃ b rest, f a = .ok b ∧ as.mapM f = .ok rest ∧ bs = b :: rest := by
  rw [List.mapM_cons]
  cases f a with
  | error e => simp [bind, Except.bind]
  | ok b =>
    cases as.mapM f with
    | error e => simp [bind, Except.bind]
    | ok rest => simp [bind, Except.bind, pure, Except.pure, eq_comm]

/-- A list is worked through exactly if every item of it is. -/
theorem exists_mapM_eq_ok_iff {α β ε : Type} (f : α → Except ε β) (as : List α) :
    (∃ bs, as.mapM f = .ok bs) ↔ ∀ a ∈ as, ∃ b, f a = .ok b := by
  induction as with
  | nil => exact iff_of_true ⟨[], rfl⟩ fun _ listed => nomatch listed
  | cons a as ih =>
    simp only [mapM_cons_eq_ok_iff, List.forall_mem_cons, ← ih]
    constructor
    · rintro ⟨-, b, rest, first, others, -⟩
      exact ⟨⟨b, first⟩, rest, others⟩
    · rintro ⟨⟨b, first⟩, rest, others⟩
      exact ⟨b :: rest, b, rest, first, others, rfl⟩

/-- A list comes from working through another exactly if every item of it comes from an item. -/
theorem exists_eq_ok_mapM_iff {α β ε : Type} (f : α → Except ε β) (bs : List β) :
    (∃ as : List α, as.mapM f = .ok bs) ↔ ∀ b ∈ bs, ∃ a, f a = .ok b := by
  induction bs with
  | nil => exact iff_of_true ⟨[], rfl⟩ fun _ listed => nomatch listed
  | cons b bs ih =>
    rw [List.forall_mem_cons, ← ih]
    constructor
    · rintro ⟨as, worked⟩
      cases as with
      | nil => cases worked
      | cons a as =>
        obtain ⟨_, _, first, others, same⟩ := (mapM_cons_eq_ok_iff f a as _).1 worked
        cases same
        exact ⟨⟨a, first⟩, as, others⟩
    · rintro ⟨⟨a, first⟩, as, others⟩
      exact ⟨a :: as, (mapM_cons_eq_ok_iff f a as _).2 ⟨b, bs, first, others, rfl⟩⟩

/-! ## Clients -/

namespace ClientEntry

/-- A client is written as its identifier and the field of its name. -/
theorem encode_eq_ok {entry : ClientEntry} {bytes : Bytes} (h : entry.encode = .ok bytes) :
    ∃ field, encodeName entry.name = .ok field ∧ bytes = entry.id.bytes ++ field := by
  simp only [encode, bind, Except.bind] at h
  split at h
  · cases h
  rename_i field hf
  cases h
  exact ⟨field, hf, rfl⟩

/-- A client takes the full width of an entry. -/
theorem length_of_encode {entry : ClientEntry} {bytes : Bytes} (h : entry.encode = .ok bytes) :
    bytes.length = clientEntrySize := by
  obtain ⟨field, hf, rfl⟩ := encode_eq_ok h
  rw [List.length_append, entry.id.length_bytes, length_of_encodeName hf, clientEntrySize]

/-- A client is read back from its entry if its name has no zero byte. -/
theorem decode_of_encode {entry : ClientEntry} {bytes : Bytes} (h : entry.encode = .ok bytes)
    (plain : 0 ∉ Text.utf8 entry.name) : decode bytes = .ok entry := by
  obtain ⟨field, hf, rfl⟩ := encode_eq_ok h
  have slice : Bytes.slice clientIdSize nameSize (entry.id.bytes ++ field) = field := by
    rw [Bytes.slice, ← entry.id.length_bytes, List.drop_left, ← length_of_encodeName hf,
      List.take_length]
  simp only [decode, slice, decodeName_of_encodeName hf plain, bind, Except.bind,
    ClientId.ofBytes_append]

/-- A list of clients takes the width of an entry for each of them. -/
theorem length_of_mapM_encode {entries : List ClientEntry} {parts : List Bytes}
    (h : entries.mapM encode = .ok parts) :
    parts.flatten.length = entries.length * clientEntrySize := by
  induction entries generalizing parts with
  | nil =>
    cases h
    simp
  | cons entry entries ih =>
    obtain ⟨bytes, rest, hb, hr, rfl⟩ := (mapM_cons_eq_ok_iff _ _ _ _).1 h
    rw [List.flatten_cons, List.length_append, length_of_encode hb, ih hr, List.length_cons,
      Nat.succ_mul, Nat.add_comm]

/-- A list of clients is read back entry by entry. -/
theorem decodeMany_of_mapM_encode {entries : List ClientEntry} {parts : List Bytes}
    (h : entries.mapM encode = .ok parts)
    (plain : ∀ entry ∈ entries, 0 ∉ Text.utf8 entry.name) :
    decodeMany entries.length parts.flatten = .ok entries := by
  induction entries generalizing parts with
  | nil => rfl
  | cons entry entries ih =>
    obtain ⟨bytes, rest, hb, hr, rfl⟩ := (mapM_cons_eq_ok_iff _ _ _ _).1 h
    have first := decode_of_encode hb (plain entry List.mem_cons_self)
    have others := ih hr fun other ho => plain other (List.mem_cons_of_mem entry ho)
    rw [List.length_cons, decodeMany, List.flatten_cons, ← length_of_encode hb, List.take_left,
      List.drop_left, first, others]
    rfl

end ClientEntry

/-! ## Messages -/

namespace MessageEntry

/-- An entry is its sender, its number, its type and the length of its content, and then the
content. -/
theorem encode_eq_ok {entry : MessageEntry} {bytes : Bytes} (h : entry.encode = .ok bytes) :
    ∃ size : UInt32, size.toNat = entry.content.length ∧
      bytes = entry.sender.bytes ++ (Bytes.ofUInt32 entry.id ++ (entry.type.number ::
        (Bytes.ofUInt32 size ++ entry.content))) := by
  simp only [encode, bind, Except.bind] at h
  split at h
  · cases h
  rename_i size hs
  cases h
  exact ⟨size, encodeLength_eq_ok hs, by simp⟩

/-- A message takes the fixed part of its record and its content. -/
theorem length_of_encode {entry : MessageEntry} {bytes : Bytes} (h : entry.encode = .ok bytes) :
    bytes.length = messageEntryPreludeSize + entry.content.length := by
  obtain ⟨size, -, rfl⟩ := encode_eq_ok h
  simp only [List.length_append, List.length_cons, Bytes.length_ofUInt32,
    entry.sender.length_bytes, messageEntryPreludeSize, messageIdSize]
  omega

/-- An entry is read back whatever follows it. -/
theorem decode_of_encode {entry : MessageEntry} {bytes : Bytes} (h : entry.encode = .ok bytes)
    (rest : Bytes) :
    decode (bytes ++ rest) = .ok (entry, messageEntryPreludeSize + entry.content.length) := by
  have length := length_of_encode h
  obtain ⟨size, hs, rfl⟩ := encode_eq_ok h
  obtain ⟨sender, id, type, content⟩ := entry
  simp only at hs length ⊢
  -- the places of the fields behind the sender
  have behind : (sender.bytes ++ (Bytes.ofUInt32 id ++ (type.number :: (Bytes.ofUInt32 size
      ++ content))) ++ rest).drop clientIdSize
      = Bytes.ofUInt32 id ++ (type.number :: (Bytes.ofUInt32 size ++ (content ++ rest))) := by
    simp only [List.append_assoc, List.cons_append]
    rw [← sender.length_bytes, List.drop_left]
  have type_ : (Bytes.ofUInt32 id ++ (type.number :: (Bytes.ofUInt32 size
      ++ (content ++ rest)))).drop messageIdSize
      = type.number :: (Bytes.ofUInt32 size ++ (content ++ rest)) :=
    List.drop_left' (Bytes.length_ofUInt32 id)
  have size_ : (Bytes.ofUInt32 id ++ (type.number :: (Bytes.ofUInt32 size
      ++ (content ++ rest)))).drop (messageIdSize + 1) = Bytes.ofUInt32 size ++ (content ++ rest) := by
    rw [← List.drop_drop, type_, List.drop_succ_cons, List.drop_zero]
  have content_ : (sender.bytes ++ (Bytes.ofUInt32 id ++ (type.number :: (Bytes.ofUInt32 size
      ++ content))) ++ rest).drop messageEntryPreludeSize = content ++ rest := by
    have place : messageEntryPreludeSize = clientIdSize + (messageIdSize + 1 + 4) := rfl
    rw [place, ← List.drop_drop, behind, ← List.drop_drop, size_]
    exact List.drop_left' (Bytes.length_ofUInt32 size)
  have whole : ¬ (sender.bytes ++ (Bytes.ofUInt32 id ++ (type.number :: (Bytes.ofUInt32 size
      ++ content))) ++ rest).length < messageEntryPreludeSize := by
    rw [List.length_append, length]
    omega
  have enough : ¬ (content ++ rest).length < content.length := by
    rw [List.length_append]
    omega
  have named : ClientId.ofBytes (sender.bytes ++ (Bytes.ofUInt32 id ++ (type.number ::
      (Bytes.ofUInt32 size ++ content))) ++ rest) = sender := by
    rw [List.append_assoc]
    exact ClientId.ofBytes_append sender _
  simp only [decode, requireSize, whole, if_false, bind, Except.bind, behind, type_, size_,
    content_, List.headD_cons, Bytes.toUInt32_ofUInt32_append, MessageType.ofNumber?_number, hs,
    enough, List.take_left, named]

/-- The bytes of an entry. -/
def size (entry : MessageEntry) : Nat :=
  messageEntryPreludeSize + entry.content.length

/-- A message whose record is shorter than 2^32 bytes can be written. -/
theorem exists_encode {entry : MessageEntry} (fits : entry.size < 4294967296) :
    ∃ bytes, entry.encode = .ok bytes := by
  have short : entry.content.length < 4294967296 := by
    unfold size at fits
    omega
  obtain ⟨size, encoded⟩ := exists_encodeLength_iff.2 short
  simp only [encode, encoded, bind, Except.bind]
  exact ⟨_, rfl⟩

/-- Messages whose records are together shorter than 2^32 bytes can be written. -/
theorem exists_mapM_encode {entries : List MessageEntry}
    (fits : (entries.map size).sum < 4294967296) : ∃ parts, entries.mapM encode = .ok parts := by
  induction entries with
  | nil => exact ⟨[], rfl⟩
  | cons entry entries ih =>
    rw [List.map_cons, List.sum_cons] at fits
    have short : entry.size < 4294967296 := by omega
    obtain ⟨bytes, encoded⟩ := exists_encode short
    obtain ⟨parts, rest⟩ := ih (by omega)
    exact ⟨bytes :: parts, (mapM_cons_eq_ok_iff _ _ _ _).2 ⟨bytes, parts, encoded, rest, rfl⟩⟩

/-- A list of messages takes the sizes of all their records. -/
theorem length_of_mapM_encode {entries : List MessageEntry} {parts : List Bytes}
    (h : entries.mapM encode = .ok parts) :
    parts.flatten.length = (entries.map size).sum := by
  induction entries generalizing parts with
  | nil =>
    cases h
    rfl
  | cons entry entries ih =>
    obtain ⟨bytes, rest, hb, hr, rfl⟩ := (mapM_cons_eq_ok_iff _ _ _ _).1 h
    rw [List.flatten_cons, List.length_append, length_of_encode hb, ih hr, List.map_cons,
      List.sum_cons, size]

/-- Messages are read back entry by entry. -/
theorem decodeAll_of_mapM_encode {entries : List MessageEntry} {parts : List Bytes}
    (h : entries.mapM encode = .ok parts) : decodeAll parts.flatten = .ok entries := by
  induction entries generalizing parts with
  | nil =>
    cases h
    rw [decodeAll]
    rfl
  | cons entry entries ih =>
    obtain ⟨bytes, rest, hb, hr, rfl⟩ := (mapM_cons_eq_ok_iff _ _ _ _).1 h
    have length := length_of_encode hb
    have nonempty : (bytes ++ rest.flatten).isEmpty = false := by
      rw [List.isEmpty_eq_false_iff, ← List.length_pos_iff, List.length_append, length,
        messageEntryPreludeSize]
      omega
    rw [List.flatten_cons, decodeAll, nonempty, if_neg (by simp)]
    simp only [decode_of_encode hb, bind, Except.bind]
    rw [← length, List.drop_left, ih hr]

end MessageEntry

/-! ## Responses -/

namespace Response

/-- Whether the names in a response can be told from their fields again. -/
def HasPlainNames : Response → Prop
  | .clientsList entries => ∀ entry ∈ entries, 0 ∉ Text.utf8 entry.name
  | _ => True

/-- A response is read back from its payload. -/
theorem decodePayload_of_encodePayload {response : Response} {payload : Bytes}
    (h : response.encodePayload = .ok payload) (plain : response.HasPlainNames) :
    decodePayload response.code payload = .ok response := by
  cases response with
  | registered clientId =>
    cases h
    have whole : ¬ clientId.bytes.length < clientIdSize := by
      rw [clientId.length_bytes]
      omega
    have read := ClientId.ofBytes_append clientId []
    rw [List.append_nil] at read
    simp only [code, decodePayload, requireSize, whole, if_false, bind, Except.bind, read]
  | clientsList entries =>
    simp only [encodePayload, bind, Except.bind] at h
    split at h
    · cases h
    rename_i parts hp
    cases h
    have length := ClientEntry.length_of_mapM_encode hp
    have count : parts.flatten.length / clientEntrySize = entries.length := by
      rw [length]
      exact Nat.mul_div_cancel _ (by decide)
    simp only [code, decodePayload, count, length.symm, if_true,
      ClientEntry.decodeMany_of_mapM_encode hp plain, bind, Except.bind]
  | publicKey clientId key =>
    simp only [encodePayload, bind, Except.bind] at h
    split at h
    · cases h
    rename_i field hk
    obtain ⟨width, rfl⟩ := encodeKey_eq_ok hk
    cases h
    have whole : ¬ (clientId.bytes ++ field).length < clientIdSize + publicKeySize := by
      rw [List.length_append, clientId.length_bytes, width]
      omega
    have slice : Bytes.slice clientIdSize publicKeySize (clientId.bytes ++ field) = field := by
      rw [Bytes.slice, ← clientId.length_bytes, List.drop_left, ← width, List.take_length]
    simp only [code, decodePayload, requireSize, whole, if_false, bind, Except.bind,
      ClientId.ofBytes_append, slice]
  | messageSent target messageId =>
    cases h
    have whole : ¬ (target.bytes ++ Bytes.ofUInt32 messageId).length
        < clientIdSize + messageIdSize := by
      rw [List.length_append, target.length_bytes, Bytes.length_ofUInt32, messageIdSize]
      omega
    have number : Bytes.toUInt32 ((target.bytes ++ Bytes.ofUInt32 messageId).drop clientIdSize)
        = messageId := by
      rw [← target.length_bytes, List.drop_left]
      have read := Bytes.toUInt32_ofUInt32_append messageId []
      rwa [List.append_nil] at read
    simp only [code, decodePayload, requireSize, whole, if_false, bind, Except.bind,
      ClientId.ofBytes_append, number]
  | unreadMessages entries =>
    simp only [encodePayload, bind, Except.bind] at h
    split at h
    · cases h
    rename_i parts hp
    cases h
    simp only [code, decodePayload, MessageEntry.decodeAll_of_mapM_encode hp, bind, Except.bind]
  | genericError => rfl

/-- The bytes of a response are a header, which states the code and the size, and the payload. -/
theorem encode_eq_ok {response : Response} {message : Bytes} (h : response.encode = .ok message) :
    ∃ (header : ResponseHeader) (payload : Bytes), response.encodePayload = .ok payload ∧
      header.code = response.code ∧ header.payloadSize.toNat = payload.length ∧
      message = header.encode ++ payload := by
  simp only [encode, bind, Except.bind] at h
  split at h
  · cases h
  rename_i payload hp
  split at h
  · cases h
  rename_i size hs
  cases h
  exact ⟨_, payload, hp, rfl, encodeLength_eq_ok hs, rfl⟩

/-- A response whose payload is written can be written if the payload is shorter than 2^32 bytes. -/
theorem exists_encode {response : Response} {payload : Bytes}
    (h : response.encodePayload = .ok payload) (fits : payload.length < 4294967296) :
    ∃ message, response.encode = .ok message := by
  have size : encodeLength payload.length = .ok (UInt32.ofNat payload.length) := if_pos fits
  unfold encode
  rw [h]
  simp only [bind, Except.bind, size]
  exact ⟨_, rfl⟩

/-- A response has an encoding exactly if its size field can state the length of its payload. -/
theorem exists_encode_iff {response : Response} {payload : Bytes}
    (h : response.encodePayload = .ok payload) :
    (∃ message, response.encode = .ok message) ↔ payload.length < 4294967296 := by
  refine ⟨?_, exists_encode h⟩
  rintro ⟨message, encoded⟩
  obtain ⟨header, _, filled, -, size, -⟩ := encode_eq_ok encoded
  cases h.symm.trans filled
  rw [← size]
  exact header.payloadSize.toNat_lt

/-- The answer to a registration can always be written. -/
theorem exists_encode_registered (clientId : ClientId) :
    ∃ message, (registered clientId).encode = .ok message := by
  apply exists_encode rfl
  rw [clientId.length_bytes]
  decide

/-- The answer to a lookup can be written if the key has its width. -/
theorem exists_encode_publicKey (clientId : ClientId) {key : Bytes}
    (width : key.length = publicKeySize) :
    ∃ message, (publicKey clientId key).encode = .ok message := by
  have field : encodeKey key = .ok key := if_pos width
  have payload : (publicKey clientId key).encodePayload = .ok (clientId.bytes ++ key) := by
    rw [encodePayload, field]
    rfl
  apply exists_encode payload
  rw [List.length_append, clientId.length_bytes, width]
  decide

/-- The receipt of a message can always be written. -/
theorem exists_encode_messageSent (target : ClientId) (messageId : UInt32) :
    ∃ message, (messageSent target messageId).encode = .ok message := by
  apply exists_encode rfl
  rw [List.length_append, target.length_bytes, Bytes.length_ofUInt32]
  decide

/-- Messages have an encoding in one response exactly if their entries together fit its size field. -/
theorem exists_encode_unreadMessages_iff {entries : List MessageEntry} :
    (∃ message, (unreadMessages entries).encode = .ok message)
      ↔ (entries.map MessageEntry.size).sum < 4294967296 := by
  have filled {parts : List Bytes} (written : entries.mapM MessageEntry.encode = .ok parts) :
      (unreadMessages entries).encodePayload = .ok parts.flatten := by
    simp only [encodePayload, written, bind, Except.bind]
  constructor
  · rintro ⟨message, encoded⟩
    obtain ⟨-, payload, payload_, -⟩ := encode_eq_ok encoded
    simp only [encodePayload, bind, Except.bind] at payload_
    split at payload_
    · cases payload_
    rename_i parts written
    rw [← MessageEntry.length_of_mapM_encode written]
    exact (exists_encode_iff (filled written)).1 ⟨message, encoded⟩
  · intro fits
    obtain ⟨parts, written⟩ := MessageEntry.exists_mapM_encode fits
    rw [← MessageEntry.length_of_mapM_encode written] at fits
    exact (exists_encode_iff (filled written)).2 fits

/-- Clients whose names fit their fields have an encoding in one response exactly if their entries
together fit its size field. -/
theorem exists_encode_clientsList_iff {entries : List ClientEntry}
    (fit : ∀ entry ∈ entries, (Text.utf8 entry.name).length ≤ maxNameLength) :
    (∃ message, (clientsList entries).encode = .ok message)
      ↔ entries.length * clientEntrySize < 4294967296 := by
  obtain ⟨parts, written⟩ : ∃ parts, entries.mapM ClientEntry.encode = .ok parts := by
    refine (exists_mapM_eq_ok_iff _ _).2 fun entry listed => ?_
    obtain ⟨field, named⟩ := exists_encodeName_iff.2 (fit entry listed)
    exact ⟨entry.id.bytes ++ field, by simp only [ClientEntry.encode, named, bind, Except.bind]⟩
  have filled : (clientsList entries).encodePayload = .ok parts.flatten := by
    simp only [encodePayload, written, bind, Except.bind]
  rw [exists_encode_iff filled, ClientEntry.length_of_mapM_encode written]

/-- A response is read back from its payload, whatever follows that. -/
theorem decode_of_encodePayload {response : Response} {header : ResponseHeader} {payload : Bytes}
    (h : response.encodePayload = .ok payload) (plain : response.HasPlainNames)
    (code : header.code = response.code) (size : header.payloadSize.toNat = payload.length)
    (rest : Bytes) : decode header (payload ++ rest) = .ok response := by
  have whole : ¬ (payload ++ rest).length < payload.length := by
    rw [List.length_append]
    omega
  simp only [decode, size, requireSize, whole, if_false, bind, Except.bind, List.take_left, code,
    decodePayload_of_encodePayload h plain]

/-- A whole response is read back. -/
theorem decodeWhole_of_encode {response : Response} {message : Bytes}
    (h : response.encode = .ok message) (plain : response.HasPlainNames) :
    ∃ header, decodeWhole message = .ok (header, response) := by
  obtain ⟨header, payload, filled, code, size, rfl⟩ := encode_eq_ok h
  have read := decode_of_encodePayload filled plain code size []
  have behind : (header.encode ++ payload).drop responseHeaderSize = payload := by
    rw [← header.length_encode, List.drop_left]
  rw [List.append_nil] at read
  exact ⟨header, by
    simp only [decodeWhole, ResponseHeader.decode_encode, behind, read, bind, Except.bind]⟩

end Response

end MessageRelay.Protocol
