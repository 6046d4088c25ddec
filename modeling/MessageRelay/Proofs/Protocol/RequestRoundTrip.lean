import MessageRelay.Proofs.Text.Utf8Form
import MessageRelay.Protocol.Request

/-!
# Requests come back from their bytes

A request has a written form exactly if what it holds fits (`exists_encode_iff_fits`). What is read
of its body is the request with its name cut at the first zero byte, whatever follows the body
(`decodeBody_eq_asRead`); a registration is refused if nothing is left of its name. A request with
a plain name is read back as it was (`decodeBody_of_encodeBody`). This is put together for the
bytes of a whole request in `reading_undoes_writing`.
-/

set_option autoImplicit false

namespace MessageRelay.Protocol

/-- The zero bytes that fill a field are not part of the name in it. -/
theorem nameBytes_padTo (bytes : Bytes) (size : Nat) :
    nameBytes (bytes.padTo size) = nameBytes bytes := by
  have filler : (List.replicate (size - bytes.length) (0 : UInt8)).takeWhile (· ≠ 0) = [] := by
    simp
  unfold nameBytes Bytes.padTo
  rw [List.takeWhile_append, filler]
  split
  · next all => rw [List.append_nil, (List.takeWhile_prefix _).eq_of_length all]
  · rfl

/-- A name that is written into its field fits and leaves room for a zero byte. -/
theorem encodeName_eq_ok {name : String} {field : Bytes} (h : encodeName name = .ok field) :
    (Text.utf8 name).length < nameSize ∧ field = (Text.utf8 name).padTo nameSize := by
  simp only [encodeName] at h
  split at h
  · rename_i hl
    cases h
    unfold maxNameLength nameSize at hl
    exact ⟨by unfold nameSize; omega, rfl⟩
  · cases h

/-- The field of a name has the width of the protocol. -/
theorem length_of_encodeName {name : String} {field : Bytes} (h : encodeName name = .ok field) :
    field.length = nameSize := by
  obtain ⟨hl, rfl⟩ := encodeName_eq_ok h
  simp only [Bytes.padTo, List.length_append, List.length_replicate]
  omega

/-- What is read from the field of a name ends at the name's first zero byte. -/
theorem decodeName_eq_beforeZero {name : String} {field : Bytes}
    (h : encodeName name = .ok field) : decodeName field = .ok (Text.beforeZero name) := by
  obtain ⟨-, rfl⟩ := encodeName_eq_ok h
  have bytes : nameBytes (Text.utf8 name) = Text.utf8 (Text.beforeZero name) :=
    (Text.utf8_beforeZero name).symm
  rw [decodeName, nameBytes_padTo, bytes, Text.ofUtf8_utf8]

/-- A name without a zero byte is read back from its field. -/
theorem decodeName_of_encodeName {name : String} {field : Bytes} (h : encodeName name = .ok field)
    (hz : 0 ∉ Text.utf8 name) : decodeName field = .ok name := by
  rw [decodeName_eq_beforeZero h, Text.beforeZero_of_plain hz]

/-- A name has a field exactly if it fits. -/
theorem exists_encodeName_iff {name : String} :
    (∃ field, encodeName name = .ok field) ↔ (Text.utf8 name).length ≤ maxNameLength := by
  simp only [encodeName]
  split <;> simp_all

/-- A key that is written into its field is the field. -/
theorem encodeKey_eq_ok {key field : Bytes} (h : encodeKey key = .ok field) :
    key.length = publicKeySize ∧ field = key := by
  unfold encodeKey at h
  split at h
  · cases h
    exact ⟨‹_›, rfl⟩
  · cases h

/-- A length that fits is the number that is written for it. -/
theorem encodeLength_eq_ok {n : Nat} {size : UInt32} (h : encodeLength n = .ok size) :
    size.toNat = n := by
  unfold encodeLength at h
  split at h
  · cases h
    rw [UInt32.toNat_ofNat']
    omega
  · cases h

/-- A key has a field exactly if it has the width of one. -/
theorem exists_encodeKey_iff {key : Bytes} :
    (∃ field, encodeKey key = .ok field) ↔ key.length = publicKeySize := by
  unfold encodeKey
  split <;> simp_all

/-- A length has a written form exactly if it has 32 bits. -/
theorem exists_encodeLength_iff {n : Nat} :
    (∃ size, encodeLength n = .ok size) ↔ n < 4294967296 := by
  unfold encodeLength
  split <;> simp_all

namespace SendPrelude

/-- What stands in front of the content of a message takes its fixed width. -/
theorem length_encode (fields : SendPrelude) : fields.encode.length = sendPreludeSize := by
  simp [encode, sendPreludeSize, fields.target.length_bytes]

/-- Reading the front of a message ignores what follows it. -/
theorem decode_encode (fields : SendPrelude) (rest : Bytes) :
    decode (fields.encode ++ rest) = .ok fields := by
  have hl : ¬ (fields.encode ++ rest).length < sendPreludeSize := by
    simp [length_encode]
  obtain ⟨target, type, size⟩ := fields
  have hd : (({ target := target, type := type, contentSize := size } : SendPrelude).encode
        ++ rest).drop clientIdSize = type :: (Bytes.ofUInt32 size ++ rest) := by
    simp only [encode, List.append_assoc, List.cons_append]
    rw [← target.length_bytes, List.drop_left]
  simp only [decode, hl, if_false, hd, List.headD_cons, List.drop_succ_cons, List.drop_zero,
    Bytes.toUInt32_ofUInt32_append]
  simp only [encode, List.append_assoc, ClientId.ofBytes_append]

end SendPrelude

namespace Request

/-- Whether what a request holds has room in its written form. -/
def Fits : Request → Prop
  | .register name key =>
    (Text.utf8 name).length ≤ maxNameLength ∧ key.length = publicKeySize
  | .publicKey name => (Text.utf8 name).length ≤ maxNameLength
  | .sendMessage _ _ content => sendPreludeSize + content.length < 4294967296
  | .clientsList | .unreadMessages => True

/-- The bytes of the body of a request. -/
def bodySize : Request → Nat
  | .register _ _ => registrationSize
  | .publicKey _ => publicKeyLookupSize
  | .sendMessage _ _ content => sendPreludeSize + content.length
  | .clientsList | .unreadMessages => 0

/-- What is read of the body of a request: its name ends at the first zero byte, and nobody
registers without a name. -/
def asRead : Request → Except WireError Request
  | .register name key =>
    if Text.beforeZero name = "" then .error (.badName .empty)
    else .ok (.register (Text.beforeZero name) key)
  | .publicKey name => .ok (.publicKey (Text.beforeZero name))
  | request => .ok request

/-- Whether the name in a request, if there is one, can be told from its field again. -/
def HasPlainName : Request → Prop
  | .register name _ => name ≠ "" ∧ 0 ∉ Text.utf8 name
  | .publicKey name => 0 ∉ Text.utf8 name
  | _ => True

/-- A request with a plain name is read as it is. -/
theorem asRead_of_hasPlainName {request : Request} (plain : request.HasPlainName) :
    request.asRead = .ok request := by
  cases request with
  | register name key => rw [asRead, Text.beforeZero_of_plain plain.2, if_neg plain.1]
  | publicKey name => rw [asRead, Text.beforeZero_of_plain plain]
  | clientsList | sendMessage | unreadMessages => rfl

/-- Only a request with a plain name is read as it is. -/
theorem asRead_eq_ok_iff {request : Request} : request.asRead = .ok request ↔ request.HasPlainName := by
  refine ⟨fun read => ?_, asRead_of_hasPlainName⟩
  cases request with
  | register name key =>
    by_cases empty : Text.beforeZero name = ""
    · rw [asRead, if_pos empty] at read
      cases read
    · rw [asRead, if_neg empty, Except.ok.injEq, register.injEq] at read
      rw [read.1] at empty
      exact ⟨empty, Text.beforeZero_eq_self_iff.1 read.1⟩
  | publicKey name =>
    rw [asRead, Except.ok.injEq, publicKey.injEq] at read
    exact Text.beforeZero_eq_self_iff.1 read
  | clientsList | sendMessage | unreadMessages => trivial

/-- The body of a registration is the field of its name and its key. -/
theorem encodeBody_register {name : String} {key body : Bytes}
    (h : encodeBody (.register name key) = .ok body) :
    ∃ field, encodeName name = .ok field ∧ key.length = publicKeySize ∧ body = field ++ key := by
  simp only [encodeBody, bind, Except.bind] at h
  split at h
  · cases h
  rename_i field hf
  split at h
  · cases h
  rename_i field' hk
  obtain ⟨hkl, rfl⟩ := encodeKey_eq_ok hk
  cases h
  exact ⟨field, hf, hkl, rfl⟩

/-- What a registration with a body is read as, whatever follows the body. -/
theorem decodeRegistration_of_encodeBody {name : String} {key body : Bytes}
    (h : encodeBody (.register name key) = .ok body) (rest : Bytes) :
    decodeRegistration (body ++ rest) = asRead (.register name key) := by
  obtain ⟨field, hf, hkl, rfl⟩ := encodeBody_register h
  have hfl := length_of_encodeName hf
  have htake : (field ++ key ++ rest).take nameSize = field := by
    rw [List.append_assoc, ← hfl, List.take_left]
  have hslice : Bytes.slice nameSize publicKeySize (field ++ key ++ rest) = key := by
    rw [Bytes.slice, List.append_assoc, ← hfl, List.drop_left, ← hkl, List.take_left]
  have hsize : ¬ (field ++ key ++ rest).length < registrationSize := by
    simp only [List.length_append, hfl, hkl, registrationSize]
    omega
  have hlong : ¬ maxNameLength < (Text.utf8 (Text.beforeZero name)).length := by
    have cut := Text.length_utf8_beforeZero_le name
    have room := (encodeName_eq_ok hf).1
    unfold maxNameLength
    omega
  simp only [decodeRegistration, requireSize, hsize, if_false, bind, Except.bind, htake,
    decodeName_eq_beforeZero hf, hlong, hslice, String.isEmpty_iff, asRead]

/-- What a lookup with a body is read as, whatever follows the body. -/
theorem decodeLookup_of_encodeBody {name : String} {body : Bytes}
    (h : encodeBody (.publicKey name) = .ok body) (rest : Bytes) :
    decodeLookup (body ++ rest) = asRead (.publicKey name) := by
  have hf : encodeName name = .ok body := h
  have hfl := length_of_encodeName hf
  have htake : (body ++ rest).take nameSize = body := by
    rw [← hfl, List.take_left]
  have hsize : ¬ (body ++ rest).length < publicKeyLookupSize := by
    simp only [List.length_append, hfl, publicKeyLookupSize]
    omega
  simp only [decodeLookup, requireSize, hsize, if_false, bind, Except.bind, htake,
    decodeName_eq_beforeZero hf, asRead]

/-- A registration is read off its own width alone. -/
theorem decodeRegistration_append {body : Bytes} (whole : registrationSize ≤ body.length)
    (rest : Bytes) : decodeRegistration (body ++ rest) = decodeRegistration body := by
  have field : nameSize ≤ body.length := by
    unfold registrationSize at whole
    omega
  have key : publicKeySize ≤ (body.drop nameSize).length := by
    unfold registrationSize at whole
    rw [List.length_drop]
    omega
  have slice : Bytes.slice nameSize publicKeySize (body ++ rest)
      = Bytes.slice nameSize publicKeySize body := by
    rw [Bytes.slice, List.drop_append_of_le_length field, List.take_append_of_le_length key,
      Bytes.slice]
  have short : ¬ (body ++ rest).length < registrationSize := by
    rw [List.length_append]
    omega
  have short' : ¬ body.length < registrationSize := by omega
  simp only [decodeRegistration, requireSize, short, short', if_false,
    List.take_append_of_le_length field, slice]

/-- A lookup is read off its own width alone. -/
theorem decodeLookup_append {body : Bytes} (whole : publicKeyLookupSize ≤ body.length)
    (rest : Bytes) : decodeLookup (body ++ rest) = decodeLookup body := by
  have short : ¬ (body ++ rest).length < publicKeyLookupSize := by
    rw [List.length_append]
    omega
  have short' : ¬ body.length < publicKeyLookupSize := by omega
  have field : nameSize ≤ body.length := whole
  simp only [decodeLookup, requireSize, short, short', if_false,
    List.take_append_of_le_length field]

/-- The body of a message to be sent is its prelude and its content. -/
theorem encodeBody_sendMessage {target : ClientId} {type : UInt8} {content body : Bytes}
    (h : encodeBody (.sendMessage target type content) = .ok body) :
    ∃ fields : SendPrelude, fields.target = target ∧ fields.type = type
      ∧ fields.contentSize.toNat = content.length ∧ body = fields.encode ++ content := by
  simp only [encodeBody, bind, Except.bind] at h
  split at h
  · cases h
  rename_i size hs
  cases h
  exact ⟨_, rfl, rfl, encodeLength_eq_ok hs, rfl⟩

/-- What a message with a prelude is, by the bytes behind the prelude. -/
theorem decodeSend_prelude {fields : SendPrelude} {content : Bytes}
    (h : fields.contentSize.toNat = content.length) (rest : Bytes) :
    decodeSend (fields.encode ++ (content ++ rest))
      = .ok (.sendMessage fields.target fields.type content) := by
  have hsize : ¬ (fields.encode ++ (content ++ rest)).length < sendPreludeSize + content.length := by
    simp only [List.length_append, SendPrelude.length_encode]
    omega
  have hslice : Bytes.slice sendPreludeSize content.length (fields.encode ++ (content ++ rest))
      = content := by
    rw [Bytes.slice, ← fields.length_encode, List.drop_left, List.take_left]
  simp only [decodeSend, SendPrelude.decode_encode, bind, Except.bind, requireSize, h, hsize,
    if_false, hslice]

/-- What is read of a body that was written, whatever follows it. -/
theorem decodeBody_eq_asRead {request : Request} {body : Bytes}
    (h : request.encodeBody = .ok body) (rest : Bytes) :
    decodeBody request.code (body ++ rest) = request.asRead := by
  cases request with
  | register name key => exact decodeRegistration_of_encodeBody h rest
  | clientsList => rfl
  | publicKey name => exact decodeLookup_of_encodeBody h rest
  | sendMessage target type content =>
    obtain ⟨fields, rfl, rfl, hc, rfl⟩ := encodeBody_sendMessage h
    rw [List.append_assoc]
    exact decodeSend_prelude hc rest
  | unreadMessages => rfl

/-- The request that was written is read from its body, whatever follows the body. -/
theorem decodeBody_of_encodeBody {request : Request} {body : Bytes}
    (h : request.encodeBody = .ok body) (hn : request.HasPlainName) (rest : Bytes) :
    decodeBody request.code (body ++ rest) = .ok request :=
  (decodeBody_eq_asRead h rest).trans (asRead_of_hasPlainName hn)

/-- A body has the size that its request has by its kind and its content. -/
theorem length_of_encodeBody {request : Request} {body : Bytes}
    (h : request.encodeBody = .ok body) : body.length = request.bodySize := by
  cases request with
  | register name key =>
    obtain ⟨field, hf, hkl, rfl⟩ := encodeBody_register h
    rw [List.length_append, length_of_encodeName hf, hkl, bodySize, registrationSize]
  | clientsList | unreadMessages =>
    cases h
    rfl
  | publicKey name => exact length_of_encodeName h
  | sendMessage target type content =>
    obtain ⟨fields, -, -, -, rfl⟩ := encodeBody_sendMessage h
    rw [List.length_append, fields.length_encode, bodySize]

/-- What stands in front of the body of a request from a client. -/
def header (request : Request) (sender : ClientId) : RequestHeader where
  clientId := sender
  version := clientVersion
  code := request.code.number
  payloadSize := UInt32.ofNat request.bodySize

/-- The bytes of a request are its header and its body, whose size has 32 bits. -/
theorem encode_eq_header {request : Request} {sender : ClientId} {encoded : Bytes}
    (h : request.encode sender = .ok encoded) :
    ∃ body, request.encodeBody = .ok body ∧ request.bodySize < 4294967296
      ∧ encoded = (request.header sender).encode ++ body := by
  simp only [encode, bind, Except.bind] at h
  split at h
  · cases h
  rename_i body hb
  split at h
  · cases h
  rename_i size hs
  cases h
  have width := encodeLength_eq_ok hs
  rw [length_of_encodeBody hb] at width
  refine ⟨body, hb, width ▸ size.toNat_lt, ?_⟩
  rw [header, ← width, UInt32.ofNat_toNat]

/-- The bytes of a request are a header, which names the sender and the code, and the body. -/
theorem encode_eq_ok {request : Request} {sender : ClientId} {encoded : Bytes}
    (h : request.encode sender = .ok encoded) :
    ∃ (header : RequestHeader) (body : Bytes), request.encodeBody = .ok body
      ∧ header.clientId = sender ∧ header.code = request.code.number
      ∧ header.payloadSize.toNat = body.length ∧ encoded = header.encode ++ body := by
  obtain ⟨body, hb, short, rfl⟩ := encode_eq_header h
  refine ⟨request.header sender, body, hb, rfl, rfl, ?_, rfl⟩
  rw [length_of_encodeBody hb]
  exact UInt32.toNat_ofNat_of_lt' short

/-- A body is written for every request that fits, and what it takes has 32 bits then. -/
theorem exists_encodeBody_of_fits {request : Request} (fits : request.Fits) :
    (∃ body, request.encodeBody = .ok body) ∧ request.bodySize < 4294967296 := by
  cases request with
  | register name key =>
    obtain ⟨field, hf⟩ := exists_encodeName_iff.2 fits.1
    obtain ⟨field', hk⟩ := exists_encodeKey_iff.2 fits.2
    refine ⟨⟨field ++ field', ?_⟩, (by decide : registrationSize < 4294967296)⟩
    simp only [encodeBody, hf, hk, bind, Except.bind]
  | clientsList | unreadMessages => exact ⟨⟨[], rfl⟩, by decide⟩
  | publicKey name =>
    exact ⟨exists_encodeName_iff.2 fits, (by decide : publicKeyLookupSize < 4294967296)⟩
  | sendMessage target type content =>
    have short : content.length < 4294967296 := by
      unfold Fits at fits
      omega
    obtain ⟨size, hs⟩ := exists_encodeLength_iff.2 short
    refine ⟨⟨(SendPrelude.mk target type size).encode ++ content, ?_⟩, fits⟩
    simp only [encodeBody, hs, bind, Except.bind]

/-- A request with a body whose size has 32 bits fits. -/
theorem fits_of_encodeBody {request : Request} {body : Bytes}
    (h : request.encodeBody = .ok body) (short : body.length < 4294967296) : request.Fits := by
  cases request with
  | register name key =>
    obtain ⟨field, hf, hkl, -⟩ := encodeBody_register h
    exact ⟨exists_encodeName_iff.1 ⟨field, hf⟩, hkl⟩
  | clientsList | unreadMessages => trivial
  | publicKey name => exact exists_encodeName_iff.1 ⟨body, h⟩
  | sendMessage target type content =>
    rw [length_of_encodeBody h] at short
    exact short

/-- A request has a written form exactly if what it holds fits. -/
theorem exists_encode_iff_fits {request : Request} {sender : ClientId} :
    (∃ encoded, request.encode sender = .ok encoded) ↔ request.Fits := by
  constructor
  · rintro ⟨encoded, h⟩
    obtain ⟨body, hb, short, -⟩ := encode_eq_header h
    exact fits_of_encodeBody hb (length_of_encodeBody hb ▸ short)
  · intro fits
    obtain ⟨⟨body, hb⟩, short⟩ := exists_encodeBody_of_fits fits
    rw [← length_of_encodeBody hb] at short
    obtain ⟨size, hs⟩ := exists_encodeLength_iff.2 short
    simp only [encode, hb, hs, bind, Except.bind]
    exact ⟨_, rfl⟩

/-- Reading undoes writing. A request is written exactly if what it holds fits. Its header is read
back with the size of its body, and of the body, whatever follows it, the request is read with its
name cut at the first zero byte; with a plain name that is the request itself. -/
theorem reading_undoes_writing (request : Request) (sender : ClientId) :
    ((∃ encoded, request.encode sender = .ok encoded) ↔ request.Fits) ∧
      ∀ encoded, request.encode sender = .ok encoded →
        RequestHeader.decode encoded = .ok (request.header sender)
          ∧ (request.header sender).payloadSize.toNat = request.bodySize
          ∧ encoded.length = requestHeaderSize + request.bodySize
          ∧ (∀ suffix, decodeBody request.code (encoded.drop requestHeaderSize ++ suffix)
              = request.asRead)
          ∧ (request.HasPlainName → request.asRead = .ok request) := by
  refine ⟨exists_encode_iff_fits, ?_⟩
  intro encoded h
  obtain ⟨body, hb, short, rfl⟩ := encode_eq_header h
  have width := (request.header sender).length_encode
  refine ⟨RequestHeader.decode_encode _ body, UInt32.toNat_ofNat_of_lt' short, ?_, ?_,
    asRead_of_hasPlainName⟩
  · rw [List.length_append, width, length_of_encodeBody hb]
  · intro suffix
    rw [← width, List.drop_left]
    exact decodeBody_eq_asRead hb suffix

/-- A lookup whose name has a zero byte is written, and is read with the front of the name. -/
theorem reading_undoes_writing_cut :
    ∃ encoded, (publicKey "a\x00b").encode (ClientId.ofBytes []) = .ok encoded ∧
      ∀ suffix, decodeBody .publicKey (encoded.drop requestHeaderSize ++ suffix)
        = .ok (.publicKey "a") := by
  have fits : (publicKey "a\x00b").Fits := by
    unfold Fits
    decide
  obtain ⟨written, read⟩ := reading_undoes_writing (publicKey "a\x00b") (ClientId.ofBytes [])
  obtain ⟨encoded, h⟩ := written.2 fits
  refine ⟨encoded, h, fun suffix => ((read encoded h).2.2.2.1 suffix).trans ?_⟩
  have cut : Text.beforeZero "a\x00b" = "a" := by decide
  rw [asRead, cut]

/-- The sizes that decide what fits. -/
example : maxNameLength = 254 ∧ publicKeySize = 160 ∧ sendPreludeSize = 21
    ∧ requestHeaderSize = 23 ∧ clientVersion = 1 := by
  decide

end Request

end MessageRelay.Protocol
