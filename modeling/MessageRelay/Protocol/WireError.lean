/-!
# Faults of the wire format

Why bytes are no request or response, and why a request or response has no bytes. `message` words
each fault.
-/

set_option autoImplicit false

namespace MessageRelay.Protocol

/-- What was being read when the bytes ended. -/
inductive Layout where
  | requestHeader
  | responseHeader
  | registration
  | publicKeyLookup
  | sendPrelude
  | sendContent
  | responsePayload
  | registrationResponse
  | clientsList
  | publicKeyResponse
  | messageSentResponse
  | messageEntry
  | messageContent
  deriving DecidableEq

/-- What is wrong with the field of a name. -/
inductive NameFault where
  | notUtf8
  | empty
  /-- The name fills its field, so no zero byte ends it. -/
  | unterminated
  deriving DecidableEq

/-- A field whose width the protocol fixes. -/
inductive FixedField where
  | name
  | publicKey
  deriving DecidableEq

/-- A fault of the wire format. -/
inductive WireError where
  /-- A layout needs more bytes than there are. -/
  | short (layout : Layout) (needed available : Nat)
  | badName (fault : NameFault)
  | unknownRequestCode (n : UInt16)
  | unknownResponseCode (n : UInt16)
  | unknownMessageType (n : UInt8)
  /-- A value does not fit its field. -/
  | wrongWidth (field : FixedField) (expected actual : Nat)
  /-- A length does not fit its 32-bit number. -/
  | tooLong (size : Nat)
  deriving DecidableEq

def Layout.words : Layout → String
  | .requestHeader => "request header"
  | .responseHeader => "response header"
  | .registration => "registration"
  | .publicKeyLookup => "public key lookup"
  | .sendPrelude => "send message prelude"
  | .sendContent => "send message content"
  | .responsePayload => "response payload"
  | .registrationResponse => "registration response"
  | .clientsList => "clients list"
  | .publicKeyResponse => "public key response"
  | .messageSentResponse => "message sent response"
  | .messageEntry => "message entry"
  | .messageContent => "message content"

def NameFault.words : NameFault → String
  | .notUtf8 => "not utf-8"
  | .empty => "empty"
  | .unterminated => "missing terminator"

def FixedField.words : FixedField → String
  | .name => "name"
  | .publicKey => "public key"

def WireError.message : WireError → String
  | .short layout needed available =>
    s!"malformed {layout.words}: need {needed} bytes, have {available}"
  | .badName fault => s!"invalid name field: {fault.words}"
  | .unknownRequestCode n => s!"unknown request code {n}"
  | .unknownResponseCode n => s!"unknown response code {n}"
  | .unknownMessageType n => s!"unknown message type {n}"
  | .wrongWidth field expected actual =>
    s!"encode error: {field.words} is {actual} bytes, expected {expected}"
  | .tooLong size => s!"size limit exceeded: {size}"

end MessageRelay.Protocol
