import MessageRelay.Protocol.ClientId
import MessageRelay.Protocol.Codes
import MessageRelay.Protocol.Field

/-!
# What stands in front of a request or a response

Both carry a version, a code and the size of what follows; a request also names its sender. The code
of a request stays a number, so that an unknown one can be reported after the rest was understood.
`decode_encode` says of both that what was written is read, whatever follows it.
-/

set_option autoImplicit false

namespace MessageRelay.Protocol

/-- What stands in front of the body of a request. -/
structure RequestHeader where
  clientId : ClientId
  version : UInt8
  code : UInt16
  payloadSize : UInt32
  deriving DecidableEq

/-- What stands in front of the payload of a response. -/
structure ResponseHeader where
  version : UInt8
  code : ResponseCode
  payloadSize : UInt32
  deriving DecidableEq

namespace RequestHeader

/-- The code, if it is a known one. -/
def requestCode (header : RequestHeader) : Except WireError RequestCode :=
  match RequestCode.ofNumber? header.code with
  | some code => .ok code
  | none => .error (.unknownRequestCode header.code)

def encode (header : RequestHeader) : Bytes :=
  header.clientId.bytes ++ header.version :: (Bytes.ofUInt16 header.code
    ++ Bytes.ofUInt32 header.payloadSize)

/-- The header at the front of a byte string. -/
def decode (bytes : Bytes) : Except WireError RequestHeader :=
  if bytes.length < requestHeaderSize then
    .error (.short .requestHeader requestHeaderSize bytes.length)
  else
    let rest := bytes.drop clientIdSize
    .ok {
      clientId := ClientId.ofBytes bytes
      version := rest.headD 0
      code := Bytes.toUInt16 (rest.drop 1)
      payloadSize := Bytes.toUInt32 (rest.drop 3) }

/-- A request header takes its full width. -/
theorem length_encode (header : RequestHeader) : header.encode.length = requestHeaderSize := by
  simp [encode, requestHeaderSize, header.clientId.length_bytes]

/-- A request header is read back from its bytes, whatever follows them. -/
theorem decode_encode (header : RequestHeader) (rest : Bytes) :
    decode (header.encode ++ rest) = .ok header := by
  have hl : ¬ (header.encode ++ rest).length < requestHeaderSize := by
    simp [length_encode]
  obtain ⟨id, version, code, size⟩ := header
  have hd : (({ clientId := id, version := version, code := code, payloadSize := size }
        : RequestHeader).encode ++ rest).drop clientIdSize
      = version :: (Bytes.ofUInt16 code ++ (Bytes.ofUInt32 size ++ rest)) := by
    simp only [encode, List.append_assoc, List.cons_append]
    rw [← id.length_bytes, List.drop_left]
  have h3 : (version :: (Bytes.ofUInt16 code ++ (Bytes.ofUInt32 size ++ rest))).drop 3
      = Bytes.ofUInt32 size ++ rest := by
    rw [show 3 = (version :: Bytes.ofUInt16 code).length by simp, ← List.cons_append,
      List.drop_left]
  simp only [decode, hl, if_false, hd, h3, List.headD_cons, List.drop_succ_cons, List.drop_zero,
    Bytes.toUInt16_ofUInt16_append, Bytes.toUInt32_ofUInt32_append]
  simp only [encode, List.append_assoc, ClientId.ofBytes_append]

end RequestHeader

namespace ResponseHeader

def encode (header : ResponseHeader) : Bytes :=
  header.version :: (Bytes.ofUInt16 header.code.number ++ Bytes.ofUInt32 header.payloadSize)

def decode (bytes : Bytes) : Except WireError ResponseHeader :=
  if bytes.length < responseHeaderSize then
    .error (.short .responseHeader responseHeaderSize bytes.length)
  else
    let n := Bytes.toUInt16 (bytes.drop 1)
    match ResponseCode.ofNumber? n with
    | none => .error (.unknownResponseCode n)
    | some code =>
      .ok { version := bytes.headD 0, code := code, payloadSize := Bytes.toUInt32 (bytes.drop 3) }

/-- A response header takes its full width. -/
theorem length_encode (header : ResponseHeader) : header.encode.length = responseHeaderSize := by
  simp [encode, responseHeaderSize]

/-- A response header is read back from its bytes, whatever follows them. -/
theorem decode_encode (header : ResponseHeader) (rest : Bytes) :
    decode (header.encode ++ rest) = .ok header := by
  have hl : ¬ (header.encode ++ rest).length < responseHeaderSize := by
    simp [length_encode]
  obtain ⟨version, code, size⟩ := header
  have h1 : (({ version := version, code := code, payloadSize := size } : ResponseHeader).encode
        ++ rest).drop 1 = Bytes.ofUInt16 code.number ++ (Bytes.ofUInt32 size ++ rest) := by
    simp [encode]
  have h3 : (({ version := version, code := code, payloadSize := size } : ResponseHeader).encode
        ++ rest).drop 3 = Bytes.ofUInt32 size ++ rest := by
    simp only [encode, List.cons_append, List.append_assoc, List.drop_succ_cons]
    rw [show 2 = (Bytes.ofUInt16 code.number).length by simp, List.drop_left]
  simp only [decode, hl, if_false, h1, h3, Bytes.toUInt16_ofUInt16_append,
    Bytes.toUInt32_ofUInt32_append, ResponseCode.ofNumber?_number]
  simp [encode]

end ResponseHeader

end MessageRelay.Protocol
