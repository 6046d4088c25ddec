import MessageRelay.Proofs.Protocol.FieldReading
import MessageRelay.Proofs.Protocol.Packets
import MessageRelay.Proofs.Protocol.ResponseRoundTrip

/-!
# What lists are read from

A list of messages is read from a payload exactly if the payload is a sequence of records, each as
long as it says (`MessageEntry.IsRecord`); there is only one way to divide it, and the messages are
written again as the payload. A list of clients is read exactly if the payload is cut into entries
of their full width with a name in each of them, and is written again with the bytes behind the ends
of the names made zero (`ClientEntry.canonical`). `Response.decode_lists_exact` says so for the
payload at the front of any byte string.
-/

set_option autoImplicit false

namespace MessageRelay.Protocol

/-! ## Clients -/

namespace ClientEntry

/-- An entry with the bytes behind the end of its name made zero. -/
def canonical (piece : Bytes) : Bytes :=
  piece.take clientIdSize ++ cleared (piece.drop clientIdSize)

variable {piece : Bytes} {entry : ClientEntry}

/-- What stands behind the identifier of a whole entry is the field of its name. -/
theorem length_drop_clientIdSize (full : piece.length = clientEntrySize) :
    (piece.drop clientIdSize).length = nameSize := by
  rw [List.length_drop, full]
  rfl

/-- A client is read from a whole entry exactly if there is a name in its field. -/
theorem decode_eq_ok_iff (full : piece.length = clientEntrySize) :
    decode piece = .ok entry ↔
      ∃ name, decodeName (piece.drop clientIdSize) = .ok name ∧
        { id := ClientId.ofBytes piece, name } = entry := by
  have field : Bytes.slice clientIdSize nameSize piece = piece.drop clientIdSize :=
    List.take_of_length_le (Nat.le_of_eq (length_drop_clientIdSize full))
  unfold decode
  simp only [bind_eq_ok_iff, field, Except.ok.injEq]

/-- A client that was read is written again as the entry it was read from, unless its name fills the
field. -/
theorem encode_of_decode (full : piece.length = clientEntrySize) (read : decode piece = .ok entry) :
    entry.encode = if 0 ∈ piece.drop clientIdSize then .ok (canonical piece)
      else .error (.wrongWidth .name maxNameLength nameSize) := by
  obtain ⟨name, named, rfl⟩ := (decode_eq_ok_iff full).1 read
  have inside : clientIdSize ≤ piece.length := by
    rw [full]
    decide
  have written := encodeName_of_decodeName named (length_drop_clientIdSize full)
  simp only [encode, written, ClientId.bytes_ofBytes inside, canonical]
  split <;> rfl

/-- A list of clients is written again entry by entry, unless a name in it fills its field. -/
theorem mapM_encode_of_mapM_decode {pieces : List Bytes} {entries : List ClientEntry}
    (full : ∀ piece ∈ pieces, piece.length = clientEntrySize)
    (read : pieces.mapM decode = .ok entries) :
    entries.mapM encode = if ∀ piece ∈ pieces, 0 ∈ piece.drop clientIdSize
      then .ok (pieces.map canonical) else .error (.wrongWidth .name maxNameLength nameSize) := by
  induction pieces generalizing entries with
  | nil =>
    cases read
    rfl
  | cons piece pieces ih =>
    obtain ⟨entry, rest, first, others, rfl⟩ := (mapM_cons_eq_ok_iff _ _ _ _).1 read
    rw [List.forall_mem_cons] at full
    rw [List.mapM_cons, encode_of_decode full.1 first, ih full.2 others]
    simp only [List.forall_mem_cons, List.map_cons]
    by_cases zero : 0 ∈ piece.drop clientIdSize
    · by_cases zeros : ∀ piece ∈ pieces, 0 ∈ piece.drop clientIdSize
      · rw [if_pos zero, if_pos zeros, if_pos ⟨zero, zeros⟩]
        rfl
      · rw [if_pos zero, if_neg zeros, if_neg fun both => zeros both.2]
        rfl
    · have fails : ¬ (0 ∈ piece.drop clientIdSize ∧ ∀ piece ∈ pieces, 0 ∈ piece.drop clientIdSize) :=
        fun both => zero both.1
      rw [if_neg zero, if_neg fails]
      rfl

/-- Entries that fill a byte string are read piece by piece. -/
theorem decodeMany_eq_mapM {payload : Bytes} {count : Nat}
    (whole : payload.length = count * clientEntrySize) :
    decodeMany count payload = (Framing.cut clientEntrySize payload).mapM decode := by
  induction count generalizing payload with
  | zero =>
    rw [Nat.zero_mul, List.length_eq_zero_iff] at whole
    rw [whole, Framing.cut]
    rfl
  | succ count ih =>
    have more : ¬ (payload.isEmpty ∨ clientEntrySize = 0) := by
      rw [List.isEmpty_iff, ← List.length_eq_zero_iff, whole, Nat.succ_mul]
      simp only [clientEntrySize, clientIdSize, nameSize]
      omega
    have rest : (payload.drop clientEntrySize).length = count * clientEntrySize := by
      rw [List.length_drop, whole, Nat.succ_mul, Nat.add_sub_cancel]
    rw [Framing.cut, if_neg more, List.mapM_cons, decodeMany, ih rest]
    rfl

end ClientEntry

/-! ## Messages -/

/-- The known message types have the numbers from one to four. -/
theorem MessageType.exists_ofNumber?_iff {n : UInt8} :
    (∃ type, ofNumber? n = some type) ↔ 1 ≤ n ∧ n ≤ 4 := by
  constructor
  · rintro ⟨type, h⟩
    rw [← number_of_ofNumber? h]
    cases type <;> decide
  · rintro ⟨low, high⟩
    have known : n = 1 ∨ n = 2 ∨ n = 3 ∨ n = 4 := by
      simp only [UInt8.le_iff_toNat_le, ← UInt8.toNat_inj] at low high ⊢
      simp only [UInt8.toNat_ofNat] at low high ⊢
      omega
    obtain rfl | rfl | rfl | rfl := known
    exacts [⟨.getKey, rfl⟩, ⟨.sendKey, rfl⟩, ⟨.textMessage, rfl⟩, ⟨.file, rfl⟩]

namespace MessageEntry

/-- The number of the type in the record at the front of a byte string. -/
def typeNumber (bytes : Bytes) : UInt8 :=
  (bytes.drop (clientIdSize + messageIdSize)).headD 0

/-- The size of the content that the record at the front of a byte string declares. -/
def declaredSize (bytes : Bytes) : Nat :=
  (Bytes.toUInt32 (bytes.drop (clientIdSize + messageIdSize + 1))).toNat

/-- Whether a byte string is the record of one message. -/
structure IsRecord (bytes : Bytes) : Prop where
  /-- The content is as long as the record declares. -/
  length : bytes.length = messageEntryPreludeSize + declaredSize bytes
  /-- The type is a known one. -/
  type : 1 ≤ typeNumber bytes ∧ typeNumber bytes ≤ 4

/-- Whether a byte string is made of the records of messages. -/
def Divides (records : List Bytes) (bytes : Bytes) : Prop :=
  (∀ record ∈ records, IsRecord record) ∧ records.flatten = bytes

variable {bytes : Bytes} {entry : MessageEntry} {entries : List MessageEntry} {n : Nat}

/-- A message is read from the front of a byte string exactly if there is as much of it as its
record declares and its type is known. -/
theorem decode_eq_ok_iff :
    decode bytes = .ok (entry, n) ↔
      messageEntryPreludeSize + declaredSize bytes ≤ bytes.length ∧
        ∃ type, MessageType.ofNumber? (typeNumber bytes) = some type ∧
          { sender := ClientId.ofBytes bytes
            id := Bytes.toUInt32 (bytes.drop clientIdSize)
            type
            content := Bytes.slice messageEntryPreludeSize (declaredSize bytes) bytes } = entry ∧
          messageEntryPreludeSize + declaredSize bytes = n := by
  have whole : messageEntryPreludeSize + declaredSize bytes ≤ bytes.length ↔
      messageEntryPreludeSize ≤ bytes.length ∧
        declaredSize bytes ≤ (bytes.drop messageEntryPreludeSize).length := by
    rw [List.length_drop]
    omega
  unfold decode
  simp only [bind_eq_ok_iff, requireSize_eq_ok_iff, exists_and_left, exists_const, List.drop_drop]
  rw [← typeNumber, ← Nat.add_assoc, ← declaredSize, whole, and_assoc]
  refine and_congr_right fun _ => ?_
  cases MessageType.ofNumber? (typeNumber bytes) with
  | none => simp [bind_eq_ok_iff]
  | some type =>
    simp only [bind_eq_ok_iff, requireSize_eq_ok_iff, Except.ok.injEq, Option.some.injEq,
      exists_eq_left', exists_and_left, exists_const, Prod.mk.injEq, Bytes.slice]

/-- The fixed part of a record is made of the sender, the number, the type and the declared size. -/
theorem take_preludeSize (whole : messageEntryPreludeSize ≤ bytes.length) :
    bytes.take messageEntryPreludeSize
      = bytes.take clientIdSize ++ ((bytes.drop clientIdSize).take 4 ++ typeNumber bytes ::
        (bytes.drop (clientIdSize + messageIdSize + 1)).take 4) := by
  have parts : messageEntryPreludeSize = clientIdSize + (messageIdSize + (1 + 4)) := rfl
  have behind : clientIdSize + messageIdSize < bytes.length := by omega
  have tail : bytes.drop (clientIdSize + messageIdSize)
      = typeNumber bytes :: bytes.drop (clientIdSize + messageIdSize + 1) := by
    rw [typeNumber, List.drop_eq_getElem_cons behind, List.headD_cons]
  rw [parts, List.take_add, List.take_add, List.drop_drop, tail, Nat.add_comm 1 4,
    List.take_succ_cons, messageIdSize]

/-- What is read takes as many bytes as are declared. -/
theorem size_of_decode (read : decode bytes = .ok (entry, n)) :
    messageEntryPreludeSize + entry.content.length = n := by
  obtain ⟨whole, type, -, rfl, rfl⟩ := decode_eq_ok_iff.1 read
  simp only [Bytes.slice, List.length_take, List.length_drop]
  omega

/-- A message that was read is written again as the bytes that it was read from. -/
theorem encode_of_decode (read : decode bytes = .ok (entry, n)) :
    entry.encode = .ok (bytes.take n) := by
  have content := size_of_decode read
  obtain ⟨whole, type, known, rfl, rfl⟩ := decode_eq_ok_iff.1 read
  have parts : messageEntryPreludeSize = clientIdSize + messageIdSize + 1 + 4 := rfl
  have sender : clientIdSize ≤ bytes.length := by omega
  have id : 4 ≤ (bytes.drop clientIdSize).length := by
    rw [List.length_drop]
    omega
  have size : 4 ≤ (bytes.drop (clientIdSize + messageIdSize + 1)).length := by
    rw [List.length_drop]
    omega
  have front : bytes.take (messageEntryPreludeSize + declaredSize bytes)
      = bytes.take messageEntryPreludeSize
        ++ Bytes.slice messageEntryPreludeSize (declaredSize bytes) bytes := List.take_add
  have declared : encodeLength (declaredSize bytes)
      = .ok (Bytes.toUInt32 (bytes.drop (clientIdSize + messageIdSize + 1))) := encodeLength_toNat _
  simp only [encode, Nat.add_left_cancel content, declared, bind, Except.bind,
    ClientId.bytes_ofBytes sender, Bytes.ofUInt32_toUInt32 id, Bytes.ofUInt32_toUInt32 size,
    MessageType.number_of_ofNumber? known, front, take_preludeSize (Nat.le_of_add_right_le whole),
    List.append_assoc, List.cons_append]

/-- A byte string is the record of a message exactly if a message is written as it. -/
theorem isRecord_iff : IsRecord bytes ↔ ∃ entry : MessageEntry, entry.encode = .ok bytes := by
  constructor
  · rintro ⟨length, type⟩
    obtain ⟨type, known⟩ := MessageType.exists_ofNumber?_iff.2 type
    have read := decode_eq_ok_iff.2 ⟨Nat.le_of_eq length.symm, type, known, rfl, rfl⟩
    have written := encode_of_decode read
    rw [← length, List.take_length] at written
    exact ⟨_, written⟩
  · rintro ⟨entry, written⟩
    have read := decode_of_encode written []
    rw [List.append_nil, ← length_of_encode written] at read
    obtain ⟨-, type, known, -, length⟩ := decode_eq_ok_iff.1 read
    exact ⟨length.symm, MessageType.exists_ofNumber?_iff.1 ⟨type, known⟩⟩

/-- Messages are read from exactly the bytes that they are written as. -/
theorem decodeAll_eq_ok_iff :
    decodeAll bytes = .ok entries ↔
      ∃ records, entries.mapM encode = .ok records ∧ records.flatten = bytes := by
  constructor
  · intro read
    induction bytes using decodeAll.induct generalizing entries with
    | case1 bytes empty =>
      rw [decodeAll, if_pos empty] at read
      cases read
      exact ⟨[], rfl, (List.isEmpty_iff.1 empty).symm⟩
    | case2 bytes more ih =>
      rw [decodeAll, if_neg more, bind_eq_ok_iff] at read
      obtain ⟨⟨entry, n⟩, first, read⟩ := read
      obtain ⟨others, rest, same⟩ := bind_eq_ok_iff.1 read
      cases same
      obtain ⟨records, written, joined⟩ := ih entry rest
      refine ⟨bytes.take n :: records, ?_, ?_⟩
      · exact (mapM_cons_eq_ok_iff _ _ _ _).2 ⟨_, _, encode_of_decode first, written, rfl⟩
      · rw [size_of_decode first] at joined
        rw [List.flatten_cons, joined, List.take_append_drop]
  · rintro ⟨records, written, rfl⟩
    exact decodeAll_of_mapM_encode written

/-- The records that make up a byte string are what the messages in it are written as. -/
theorem divides_iff {records : List Bytes} :
    Divides records bytes ↔
      ∃ entries, decodeAll bytes = .ok entries ∧ entries.mapM encode = .ok records := by
  simp only [Divides, isRecord_iff, ← exists_eq_ok_mapM_iff]
  constructor
  · rintro ⟨⟨entries, written⟩, joined⟩
    exact ⟨entries, decodeAll_eq_ok_iff.2 ⟨records, written, joined⟩, written⟩
  · rintro ⟨entries, read, written⟩
    obtain ⟨_, same, joined⟩ := decodeAll_eq_ok_iff.1 read
    cases same.symm.trans written
    exact ⟨⟨entries, written⟩, joined⟩

/-- A byte string is made of records exactly if messages are read from it. -/
theorem exists_divides_iff :
    (∃ records, Divides records bytes) ↔ ∃ entries, decodeAll bytes = .ok entries := by
  simp only [divides_iff]
  constructor
  · rintro ⟨-, entries, read, -⟩
    exact ⟨entries, read⟩
  · rintro ⟨entries, read⟩
    obtain ⟨records, written, -⟩ := decodeAll_eq_ok_iff.1 read
    exact ⟨records, entries, read, written⟩

/-- A byte string is made of records in one way only. -/
theorem Divides.unique {records others : List Bytes} (h : Divides records bytes)
    (other : Divides others bytes) : records = others := by
  obtain ⟨entries, read, written⟩ := divides_iff.1 h
  obtain ⟨_, same, writtenToo⟩ := divides_iff.1 other
  cases same.symm.trans read
  exact Except.ok.inj (written.symm.trans writtenToo)

end MessageEntry

/-! ## Payloads -/

namespace Response

variable {payload : Bytes} {response : Response}

/-- What is read of a payload of messages. -/
structure ReadsMessages (payload : Bytes) (outcome : Except WireError Response) : Prop where
  /-- Something is read exactly if the payload is made of records. -/
  accepts : (∃ response, outcome = .ok response) ↔ ∃ records, MessageEntry.Divides records payload
  /-- There is one way to divide it. -/
  unique : ∀ records others, MessageEntry.Divides records payload →
    MessageEntry.Divides others payload → records = others
  /-- The messages are written again as the payload. -/
  keeps : ∀ response, outcome = .ok response →
    response.code = .unreadMessages ∧ response.encodePayload = .ok payload

/-- What is read of a payload of clients. -/
structure ReadsClients (payload : Bytes) (outcome : Except WireError Response) : Prop where
  /-- Something is read exactly if the payload is cut into whole entries with a name in each. -/
  accepts : (∃ response, outcome = .ok response) ↔
    clientEntrySize ∣ payload.length ∧
      ∀ piece ∈ Framing.cut clientEntrySize payload,
        Text.IsText (nameBytes (piece.drop clientIdSize))
  /-- The clients are written again as the entries with the bytes behind the ends of the names made
  zero, unless a name fills its field. -/
  keeps : ∀ response, outcome = .ok response →
    response.code = .clientsList ∧
      response.encodePayload = if ∀ piece ∈ Framing.cut clientEntrySize payload,
          0 ∈ piece.drop clientIdSize
        then .ok ((Framing.cut clientEntrySize payload).flatMap ClientEntry.canonical)
        else .error (.wrongWidth .name maxNameLength nameSize)

/-- A payload of messages is read as all the messages in it. -/
theorem decodePayload_unreadMessages_eq_ok_iff :
    decodePayload .unreadMessages payload = .ok response ↔
      ∃ entries, MessageEntry.decodeAll payload = .ok entries ∧ .unreadMessages entries = response := by
  simp only [decodePayload, bind_eq_ok_iff, Except.ok.injEq]

/-- A payload of clients is read entry by entry if it is made of whole entries. -/
theorem decodePayload_clientsList_eq_ok_iff :
    decodePayload .clientsList payload = .ok response ↔
      clientEntrySize ∣ payload.length ∧
        ∃ entries, (Framing.cut clientEntrySize payload).mapM ClientEntry.decode = .ok entries ∧
          .clientsList entries = response := by
  unfold decodePayload
  rw [Nat.dvd_iff_div_mul_eq]
  by_cases whole : payload.length / clientEntrySize * clientEntrySize = payload.length
  · simp only [whole, if_true, ClientEntry.decodeMany_eq_mapM whole.symm, bind_eq_ok_iff,
      Except.ok.injEq, true_and]
  · simp only [whole, if_false, false_and, reduceCtorEq]

/-- What is read of any payload of messages. -/
theorem readsMessages (payload : Bytes) :
    ReadsMessages payload (decodePayload .unreadMessages payload) := by
  refine ⟨?_, fun _ _ => MessageEntry.Divides.unique, ?_⟩
  · simp only [decodePayload_unreadMessages_eq_ok_iff, MessageEntry.exists_divides_iff]
    constructor
    · rintro ⟨-, entries, parsed, -⟩
      exact ⟨entries, parsed⟩
    · rintro ⟨entries, parsed⟩
      exact ⟨_, entries, parsed, rfl⟩
  · intro response read
    obtain ⟨entries, parsed, rfl⟩ := decodePayload_unreadMessages_eq_ok_iff.1 read
    obtain ⟨records, written, rfl⟩ := MessageEntry.decodeAll_eq_ok_iff.1 parsed
    refine ⟨rfl, ?_⟩
    simp only [encodePayload, written, bind, Except.bind]

/-- What is read of any payload of clients. -/
theorem readsClients (payload : Bytes) :
    ReadsClients payload (decodePayload .clientsList payload) := by
  have full (whole : clientEntrySize ∣ payload.length) :
      ∀ piece ∈ Framing.cut clientEntrySize payload, piece.length = clientEntrySize :=
    fun _ => Framing.length_of_mem_cut whole
  constructor
  · simp only [decodePayload_clientsList_eq_ok_iff, exists_and_left]
    refine and_congr_right fun whole => ?_
    constructor
    · rintro ⟨-, entries, parsed, -⟩ piece listed
      obtain ⟨entry, first⟩ := (exists_mapM_eq_ok_iff _ _).1 ⟨entries, parsed⟩ piece listed
      obtain ⟨name, named, -⟩ := (ClientEntry.decode_eq_ok_iff (full whole piece listed)).1 first
      exact exists_decodeName_iff.1 ⟨name, named⟩
    · intro named
      obtain ⟨entries, parsed⟩ : ∃ entries,
          (Framing.cut clientEntrySize payload).mapM ClientEntry.decode = .ok entries := by
        refine (exists_mapM_eq_ok_iff _ _).2 fun piece listed => ?_
        obtain ⟨name, named⟩ := exists_decodeName_iff.2 (named piece listed)
        exact ⟨_, (ClientEntry.decode_eq_ok_iff (full whole piece listed)).2 ⟨name, named, rfl⟩⟩
      exact ⟨_, entries, parsed, rfl⟩
  · intro response read
    obtain ⟨whole, entries, parsed, rfl⟩ := decodePayload_clientsList_eq_ok_iff.1 read
    refine ⟨rfl, ?_⟩
    rw [encodePayload, ClientEntry.mapM_encode_of_mapM_decode (full whole) parsed]
    split
    · rw [List.flatMap_def]
      rfl
    · rfl

/-- A response is read from as many bytes as its header states, whatever follows them, and not from
fewer. A list is read exactly if these bytes are a sequence of records, or of entries with names, and
is written again as the same bytes but for those behind the ends of names. -/
theorem decode_lists_exact (header : ResponseHeader) (bytes : Bytes) :
    let size := header.payloadSize.toNat
    (bytes.length < size →
      decode header bytes = .error (.short .responsePayload size bytes.length)) ∧
    (size ≤ bytes.length →
      (∀ others : Bytes, others.take size = bytes.take size →
        decode header others = decode header bytes) ∧
      (header.code = .unreadMessages →
        ReadsMessages (bytes.take size) (decode header bytes)) ∧
      (header.code = .clientsList →
        ReadsClients (bytes.take size) (decode header bytes))) := by
  intro size
  -- only so many bytes are looked at, so it is enough to know them
  have whole (others : Bytes) (enough : size ≤ others.length) :
      decode header others = decodePayload header.code (others.take size) := by
    have none : requireSize .responsePayload size others = .ok () := requireSize_eq_ok_iff.2 enough
    simp only [decode, none, bind, Except.bind, size]
  constructor
  · intro short
    have fails : requireSize .responsePayload size bytes
        = .error (.short .responsePayload size bytes.length) := if_pos short
    simp only [decode, fails, bind, Except.bind, size]
  · intro enough
    rw [whole bytes enough]
    refine ⟨?_, ?_, ?_⟩
    · intro others same
      have lengths := congrArg List.length same
      simp only [List.length_take] at lengths
      rw [whole others (by omega), same]
    · intro code
      rw [code]
      exact readsMessages _
    · intro code
      rw [code]
      exact readsClients _

/-- Two messages of one and two bytes with another byte behind their records, which are divided in one
way; the records without their first byte; and two clients whose fields go on behind the ends of
their names. -/
theorem decode_lists_exact_two :
    let announce (code : ResponseCode) (size : UInt32) : ResponseHeader :=
      { version := serverVersion, code, payloadSize := size }
    let one : Bytes := List.replicate 16 7 ++ [1, 0, 0, 0, 3, 1, 0, 0, 0, 42]
    let two : Bytes := List.replicate 16 8 ++ [2, 0, 0, 0, 1, 2, 0, 0, 0, 42, 43]
    let entry (id letter rest : UInt8) : Bytes :=
      List.replicate 16 id ++ letter :: 0 :: List.replicate 253 rest
    (∃ response, decode (announce .unreadMessages 53) (one ++ two ++ [9]) = .ok response ∧
      response.encodePayload = .ok (one ++ two) ∧
      ∀ records, MessageEntry.Divides records (one ++ two) ↔ records = [one, two]) ∧
    decode (announce .unreadMessages 53) (one ++ two).tail
      = .error (.short .responsePayload 53 52) ∧
    ∃ response,
      decode (announce .clientsList 542) (entry 7 97 5 ++ entry 8 98 6) = .ok response ∧
      response.encodePayload = .ok (entry 7 97 0 ++ entry 8 98 0) := by
  intro announce one two entry
  refine ⟨?_, ?_, ?_⟩
  · obtain ⟨-, messages, -⟩ :=
      (decode_lists_exact (announce .unreadMessages 53) (one ++ two ++ [9])).2 (by decide)
    have messages := messages rfl
    have payload : (one ++ two ++ [9]).take (announce .unreadMessages 53).payloadSize.toNat
        = one ++ two := by decide
    rw [payload] at messages
    have divided : MessageEntry.Divides [one, two] (one ++ two) := by
      refine ⟨List.forall_mem_cons.2 ⟨?_, List.forall_mem_singleton.2 ?_⟩, rfl⟩
      · exact ⟨by decide, by decide⟩
      · exact ⟨by decide, by decide⟩
    obtain ⟨response, read⟩ := messages.accepts.2 ⟨_, divided⟩
    refine ⟨response, read, (messages.keeps response read).2, fun records => ⟨?_, ?_⟩⟩
    · exact fun other => messages.unique _ _ other divided
    · rintro rfl
      exact divided
  · exact (decode_lists_exact (announce .unreadMessages 53) (one ++ two).tail).1 (by decide)
  · obtain ⟨-, -, clients⟩ :=
      (decode_lists_exact (announce .clientsList 542) (entry 7 97 5 ++ entry 8 98 6)).2
        (by decide +kernel)
    have clients := clients rfl
    have payload : (entry 7 97 5 ++ entry 8 98 6).take
        (announce .clientsList 542).payloadSize.toNat = [entry 7 97 5, entry 8 98 6].flatten := by
      decide +kernel
    have pieces : Framing.cut clientEntrySize [entry 7 97 5, entry 8 98 6].flatten
        = [entry 7 97 5, entry 8 98 6] := Framing.cut_flatten (by decide) (by decide +kernel)
    have first : nameBytes ((entry 7 97 5).drop clientIdSize) = [97] := by decide +kernel
    have second : nameBytes ((entry 8 98 6).drop clientIdSize) = [98] := by decide +kernel
    have names : ∀ piece ∈ [entry 7 97 5, entry 8 98 6],
        Text.IsText (nameBytes (piece.drop clientIdSize)) := by
      rw [List.forall_mem_cons, List.forall_mem_singleton, first, second]
      exact ⟨Text.isText_ascii_byte (by decide), Text.isText_ascii_byte (by decide)⟩
    rw [payload] at clients
    obtain ⟨response, read⟩ := clients.accepts.2 ⟨by decide +kernel, by rwa [pieces]⟩
    refine ⟨response, read, ?_⟩
    have zeros : ∀ piece ∈ [entry 7 97 5, entry 8 98 6], 0 ∈ piece.drop clientIdSize := by
      decide +kernel
    have cleared : [entry 7 97 5, entry 8 98 6].flatMap ClientEntry.canonical
        = entry 7 97 0 ++ entry 8 98 0 := by
      rw [List.flatMap_cons, List.flatMap_singleton, ClientEntry.canonical, cleared_eq_padTo, first,
        ClientEntry.canonical, cleared_eq_padTo, second]
      decide +kernel
    rw [(clients.keeps response read).2, pieces, if_pos zeros, cleared]

end Response

end MessageRelay.Protocol
