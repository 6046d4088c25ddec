import MessageRelay.Proofs.Protocol.FieldReading

/-!
# The grammar of request bodies

Which byte strings are the body of a request with a code is said here without reading them
(`Request.Grammar`), and reading accepts exactly those. What was read is written again as the body
that it was read from, with the bytes behind the end of its name made zero (`Request.canonicalBody`).
Two kinds of requests can be read and have no written form (`Request.Unwritable`): a lookup of a
name that fills its field, and a message so long that the size of its body has no 32 bits. All this
is `Request.decodeBody_accepts_grammar`.
-/

set_option autoImplicit false

namespace MessageRelay.Protocol.Request

/-- The size of the content that the body of a message to be sent declares. -/
def declaredSize (body : Bytes) : Nat :=
  (Bytes.toUInt32 (body.drop (clientIdSize + 1))).toNat

/-- The size of the content is declared in front of what follows. -/
theorem declaredSize_append {body : Bytes} (h : sendPreludeSize ≤ body.length)
    (more : Bytes) : declaredSize (body ++ more) = declaredSize body := by
  have sizes : sendPreludeSize = 21 ∧ clientIdSize = 16 := ⟨rfl, rfl⟩
  unfold declaredSize Bytes.toUInt32
  rw [List.drop_append_of_le_length (by omega), List.take_append_of_le_length]
  rw [List.length_drop]
  omega

/-- Whether a field starts with text and then a zero byte, which is not its first byte. -/
def EndsName (field : Bytes) : Prop :=
  ∃ place, 1 ≤ place ∧ place ≤ maxNameLength ∧ FirstZeroAt field place ∧
    Text.IsText (field.take place)

/-- Whether a byte string starts with the body of a request with a code. -/
def Grammar : RequestCode → Bytes → Prop
  | .register, body =>
    registrationSize ≤ body.length ∧ EndsName (body.take nameSize)
  | .publicKey, body =>
    publicKeyLookupSize ≤ body.length ∧ Text.IsText (nameBytes (body.take nameSize))
  | .sendMessage, body =>
    sendPreludeSize ≤ body.length ∧ sendPreludeSize + declaredSize body ≤ body.length
  | .clientsList, _ | .unreadMessages, _ => True

/-- Whether what is read of a body has no written form: its name has no end, or the size of the body
has no 32 bits. -/
def Unwritable : RequestCode → Bytes → Prop
  | .publicKey, body => 0 ∉ body.take nameSize
  | .sendMessage, body => 4294967296 - 22 < declaredSize body
  | .register, _ | .clientsList, _ | .unreadMessages, _ => False

/-- The body at the front of a byte string, with the bytes behind the end of its name made zero. -/
def canonicalBody : RequestCode → Bytes → Bytes
  | .register, body => cleared (body.take nameSize) ++ Bytes.slice nameSize publicKeySize body
  | .publicKey, body => cleared (body.take nameSize)
  | .sendMessage, body => body.take (sendPreludeSize + declaredSize body)
  | .clientsList, _ | .unreadMessages, _ => []

variable {body : Bytes} {request : Request}

/-! ## What is read -/

/-- A registration is read from a body that holds its name and its key, if the name is text that is
neither empty nor too long. -/
theorem decodeRegistration_eq_ok_iff :
    decodeRegistration body = .ok request ↔
      registrationSize ≤ body.length ∧
        ∃ name, decodeName (body.take nameSize) = .ok name ∧ name ≠ "" ∧
          (Text.utf8 name).length ≤ maxNameLength ∧
          .register name (Bytes.slice nameSize publicKeySize body) = request := by
  unfold decodeRegistration
  simp only [bind_eq_ok_iff, requireSize_eq_ok_iff, exists_and_left, exists_const]
  refine and_congr_right fun _ => exists_congr fun name => and_congr_right fun _ => ?_
  by_cases empty : name = ""
  · simp [empty]
  · by_cases long : maxNameLength < (Text.utf8 name).length
    · have tooLong : ¬ (Text.utf8 name).length ≤ maxNameLength := Nat.not_le.2 long
      simp [empty, long, tooLong]
    · have short := Nat.not_lt.1 long
      simp [empty, long, short]

/-- A lookup is read from a body that holds a name which is text. -/
theorem decodeLookup_eq_ok_iff :
    decodeLookup body = .ok request ↔
      publicKeyLookupSize ≤ body.length ∧
        ∃ name, decodeName (body.take nameSize) = .ok name ∧ .publicKey name = request := by
  unfold decodeLookup
  simp only [bind_eq_ok_iff, requireSize_eq_ok_iff, exists_and_left, exists_const,
    Except.ok.injEq]

/-- A message to be sent is read from a body that holds as much content as it declares. -/
theorem decodeSend_eq_ok_iff :
    decodeSend body = .ok request ↔
      sendPreludeSize ≤ body.length ∧ sendPreludeSize + declaredSize body ≤ body.length ∧
        .sendMessage (ClientId.ofBytes body) ((body.drop clientIdSize).headD 0)
          (Bytes.slice sendPreludeSize (declaredSize body) body) = request := by
  unfold decodeSend SendPrelude.decode declaredSize
  by_cases short : body.length < sendPreludeSize
  · have unread : ¬ sendPreludeSize ≤ body.length := Nat.not_le.2 short
    simp [short, unread, bind, Except.bind]
  · simp only [if_neg short, bind_eq_ok_iff, requireSize_eq_ok_iff, exists_and_left, exists_const,
      List.drop_drop, Except.ok.injEq, exists_eq_left', Nat.not_lt.1 short, true_and]

/-! ## What can be read -/

/-- A name shorter than its field ends with a zero byte in it. -/
theorem zero_mem_of_short {field : Bytes} {name : String} (read : decodeName field = .ok name)
    (width : field.length = nameSize) (short : (Text.utf8 name).length ≤ maxNameLength) :
    0 ∈ field := by
  rw [decodeName_eq_ok_iff] at read
  by_contra plain
  rw [nameBytes_eq_self plain] at read
  rw [← read, width] at short
  exact absurd short (by decide)

/-- The name in a field is one to register under exactly if a zero byte ends it that is not the first
byte of the field. -/
theorem endsName_iff {field : Bytes} (width : field.length = nameSize) :
    EndsName field ↔
      ∃ name, decodeName field = .ok name ∧ name ≠ "" ∧
        (Text.utf8 name).length ≤ maxNameLength := by
  constructor
  · rintro ⟨place, positive, short, first, name, text⟩
    have length : (Text.utf8 name).length = place := by
      rw [← text, List.length_take]
      exact Nat.min_eq_left (Nat.le_of_lt first.lt)
    refine ⟨name, decodeName_eq_ok_iff.2 ((nameBytes_eq_take first).trans text), ?_, ?_⟩
    · rintro rfl
      rw [← length] at positive
      exact absurd positive (by decide)
    · rw [length]
      exact short
  · rintro ⟨name, read, named, short⟩
    have first := firstZeroAt_length_nameBytes (zero_mem_of_short read width short)
    rw [decodeName_eq_ok_iff] at read
    refine ⟨_, ?_, ?_, first, name, ?_⟩
    · rw [Nat.one_le_iff_ne_zero, Ne, List.length_eq_zero_iff, read]
      exact fun empty => named (Text.utf8_injective empty)
    · rw [read]
      exact short
    · rw [← nameBytes_eq_take first, read]

/-- The field of a name at the front of a body that holds it takes its full width. -/
theorem length_take_nameSize (whole : nameSize ≤ body.length) :
    (body.take nameSize).length = nameSize :=
  List.length_take_of_le whole

/-- The body of a registration holds the field of a name. -/
theorem nameSize_le_registrationSize : nameSize ≤ registrationSize := by decide

/-- A byte string starts with the body of a request exactly if a request is read from it. -/
theorem exists_decodeBody_iff {code : RequestCode} :
    (∃ request, decodeBody code body = .ok request) ↔ Grammar code body := by
  cases code with
  | register =>
    simp only [decodeBody, decodeRegistration_eq_ok_iff, Grammar, exists_and_left]
    refine and_congr_right fun whole => ?_
    have width := length_take_nameSize (Nat.le_trans nameSize_le_registrationSize whole)
    rw [endsName_iff width]
    constructor
    · rintro ⟨_, name, read, named, short, -⟩
      exact ⟨name, read, named, short⟩
    · rintro ⟨name, read, named, short⟩
      exact ⟨_, name, read, named, short, rfl⟩
  | publicKey =>
    simp only [decodeBody, decodeLookup_eq_ok_iff, Grammar, exists_and_left, ← exists_decodeName_iff]
    refine and_congr_right fun _ => ?_
    constructor
    · rintro ⟨_, name, read, -⟩
      exact ⟨name, read⟩
    · rintro ⟨name, read⟩
      exact ⟨_, name, read, rfl⟩
  | sendMessage =>
    simp only [decodeBody, decodeSend_eq_ok_iff, Grammar, exists_and_left, exists_eq', and_true]
  | clientsList | unreadMessages => exact ⟨fun _ => trivial, fun _ => ⟨_, rfl⟩⟩

/-- A request that is read with a code is one of that code. -/
theorem code_of_decodeBody {code : RequestCode} (h : decodeBody code body = .ok request) :
    request.code = code := by
  cases code with
  | register =>
    obtain ⟨-, name, -, -, -, rfl⟩ := decodeRegistration_eq_ok_iff.1 h
    rfl
  | publicKey =>
    obtain ⟨-, name, -, rfl⟩ := decodeLookup_eq_ok_iff.1 h
    rfl
  | sendMessage =>
    obtain ⟨-, -, rfl⟩ := decodeSend_eq_ok_iff.1 h
    rfl
  | clientsList | unreadMessages =>
    cases h
    rfl

/-! ## What is written again -/

/-- The key in a body that holds a registration takes its full width. -/
theorem length_slice_key (whole : registrationSize ≤ body.length) :
    (Bytes.slice nameSize publicKeySize body).length = publicKeySize := by
  rw [Bytes.slice, List.length_take, List.length_drop]
  unfold registrationSize at whole
  omega

/-- The content in a body that holds it is as long as declared. -/
theorem length_slice_content (whole : sendPreludeSize + declaredSize body ≤ body.length) :
    (Bytes.slice sendPreludeSize (declaredSize body) body).length = declaredSize body := by
  rw [Bytes.slice, List.length_take, List.length_drop]
  omega

/-- What stands in front of the content is written as it was read. -/
theorem encode_prelude (whole : sendPreludeSize ≤ body.length) :
    ({ target := ClientId.ofBytes body, type := (body.drop clientIdSize).headD 0,
       contentSize := Bytes.toUInt32 (body.drop (clientIdSize + 1)) } : SendPrelude).encode
      = body.take sendPreludeSize := by
  have target : clientIdSize ≤ body.length := by
    unfold sendPreludeSize at whole
    omega
  have size : 4 ≤ (body.drop (clientIdSize + 1)).length := by
    rw [List.length_drop]
    unfold sendPreludeSize at whole
    omega
  have behind : clientIdSize < body.length := by
    unfold sendPreludeSize at whole
    omega
  have type : body.drop clientIdSize
      = (body.drop clientIdSize).headD 0 :: body.drop (clientIdSize + 1) := by
    rw [List.drop_eq_getElem_cons behind, List.headD_cons]
  have parts : sendPreludeSize = clientIdSize + (1 + 4) := rfl
  rw [SendPrelude.encode, ClientId.bytes_ofBytes target, Bytes.ofUInt32_toUInt32 size, parts,
    List.take_add, Nat.add_comm 1 4, type, List.take_succ_cons, List.headD_cons]

/-- A request that was read has room in its written form unless its name or its content has none. -/
theorem fits_iff_of_decodeBody {code : RequestCode} (read : decodeBody code body = .ok request) :
    request.Fits ↔ ¬ Unwritable code body := by
  cases code with
  | register =>
    obtain ⟨whole, name, -, -, short, rfl⟩ := decodeRegistration_eq_ok_iff.1 read
    exact iff_of_true ⟨short, length_slice_key whole⟩ id
  | publicKey =>
    obtain ⟨whole, name, named, rfl⟩ := decodeLookup_eq_ok_iff.1 read
    have width := length_take_nameSize whole
    have written := encodeName_of_decodeName named width
    simp only [Fits, Unwritable, not_not, ← exists_encodeName_iff, written]
    split <;> simp_all
  | sendMessage =>
    obtain ⟨-, whole, rfl⟩ := decodeSend_eq_ok_iff.1 read
    have parts : sendPreludeSize = 21 := rfl
    rw [Fits, Unwritable, length_slice_content whole, parts]
    omega
  | clientsList | unreadMessages =>
    cases read
    exact iff_of_true trivial id

/-- A request that was read and fits is written again as the body that it was read from. -/
theorem encodeBody_of_decodeBody {code : RequestCode} (read : decodeBody code body = .ok request)
    (fits : request.Fits) : request.encodeBody = .ok (canonicalBody code body) := by
  cases code with
  | register =>
    obtain ⟨whole, name, named, -, short, rfl⟩ := decodeRegistration_eq_ok_iff.1 read
    have width := length_take_nameSize (Nat.le_trans nameSize_le_registrationSize whole)
    have zero := zero_mem_of_short named width short
    simp only [encodeBody, encodeName_of_decodeName named width, if_pos zero, encodeKey,
      if_pos (length_slice_key whole), bind, Except.bind, canonicalBody]
  | publicKey =>
    obtain ⟨whole, name, named, rfl⟩ := decodeLookup_eq_ok_iff.1 read
    have written := encodeName_of_decodeName named (length_take_nameSize whole)
    have zero : 0 ∈ body.take nameSize := not_not.1 ((fits_iff_of_decodeBody read).1 fits)
    rw [encodeBody, written, if_pos zero, canonicalBody]
  | sendMessage =>
    obtain ⟨prelude, whole, rfl⟩ := decodeSend_eq_ok_iff.1 read
    have size : encodeLength (declaredSize body)
        = .ok (Bytes.toUInt32 (body.drop (clientIdSize + 1))) := encodeLength_toNat _
    have parts : canonicalBody .sendMessage body
        = body.take sendPreludeSize ++ Bytes.slice sendPreludeSize (declaredSize body) body :=
      List.take_add
    simp only [encodeBody, length_slice_content whole, size, bind, Except.bind,
      encode_prelude prelude, parts]
  | clientsList | unreadMessages =>
    cases read
    rfl

/-- Reading accepts exactly the bodies of requests. A request that was read is written again, for any
sender, as its header and the body that it was read from with the bytes behind the end of its name
made zero, unless it has no written form. -/
theorem decodeBody_accepts_grammar (code : RequestCode) (body : Bytes) :
    ((∃ request, decodeBody code body = .ok request) ↔ Grammar code body) ∧
      ∀ request, decodeBody code body = .ok request → request.code = code ∧ ∀ sender,
        (Unwritable code body → ∀ encoded, request.encode sender ≠ .ok encoded) ∧
          (¬ Unwritable code body →
            request.encode sender
              = .ok ((request.header sender).encode ++ canonicalBody code body)) := by
  refine ⟨exists_decodeBody_iff, fun request read => ⟨code_of_decodeBody read, fun sender => ?_⟩⟩
  have fits := fits_iff_of_decodeBody read
  constructor
  · intro unwritable encoded h
    exact fits.1 (exists_encode_iff_fits.1 ⟨encoded, h⟩) unwritable
  · intro writable
    obtain ⟨encoded, h⟩ : ∃ encoded, request.encode sender = .ok encoded :=
      exists_encode_iff_fits.2 (fits.2 writable)
    obtain ⟨written, hw, -, rfl⟩ := encode_eq_header h
    cases hw.symm.trans (encodeBody_of_decodeBody read (fits.2 writable))
    exact h

/-- A lookup in whose field other bytes follow the end of the name, and more bytes the field: it is
written again with zero bytes behind the name. -/
theorem decodeBody_accepts_grammar_lookup :
    let body : Bytes := 97 :: 0 :: List.replicate 300 7
    let sender := ClientId.ofBytes [1]
    decodeBody .publicKey body = .ok (.publicKey "a") ∧
      (publicKey "a").encode sender
        = .ok (((publicKey "a").header sender).encode ++ 97 :: List.replicate 254 0) := by
  intro body sender
  have front : nameBytes (body.take nameSize) = [97] := by decide +kernel
  have named : decodeName (body.take nameSize) = .ok "a" := decodeName_eq_ok_iff.2 front
  have whole : publicKeyLookupSize ≤ body.length := by decide +kernel
  have read : decodeBody .publicKey body = .ok (.publicKey "a") :=
    decodeLookup_eq_ok_iff.2 ⟨whole, "a", named, rfl⟩
  have ends : ¬ Unwritable .publicKey body := not_not.2 (by decide +kernel)
  have canonical : canonicalBody .publicKey body = 97 :: List.replicate 254 0 := by
    rw [canonicalBody, cleared_eq_padTo, front, length_take_nameSize whole]
    rfl
  obtain ⟨-, written⟩ := (decodeBody_accepts_grammar .publicKey body).2 _ read
  refine ⟨read, ?_⟩
  rw [(written sender).2 ends, canonical]

end MessageRelay.Protocol.Request
