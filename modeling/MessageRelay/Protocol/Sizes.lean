/-!
# Sizes and versions of the protocol

Every field of the protocol but the content of a message has a fixed width, and so has everything
that is composed of such fields. All traffic moves in packets.
-/

set_option autoImplicit false

namespace MessageRelay.Protocol

/-- Version in the header of every response. -/
def serverVersion : UInt8 := 2

/-- Version in the header of every request that is written here. -/
def clientVersion : UInt8 := 1

def packetSize : Nat := 1024

def clientIdSize : Nat := 16

/-- Bytes of the field that holds a name. -/
def nameSize : Nat := 255

/-- The longest name in bytes: its field keeps one byte for the zero at the end. -/
def maxNameLength : Nat := nameSize - 1

def publicKeySize : Nat := 160

def messageIdSize : Nat := 4

/-- Bytes in front of the body of a request: identifier, version, code and body size. -/
def requestHeaderSize : Nat := clientIdSize + 1 + 2 + 4

/-- Bytes in front of the payload of a response: version, code and payload size. -/
def responseHeaderSize : Nat := 1 + 2 + 4

def registrationSize : Nat := nameSize + publicKeySize

def publicKeyLookupSize : Nat := nameSize

/-- Bytes in front of the content of a message to be sent: target, type and content size. -/
def sendPreludeSize : Nat := clientIdSize + 1 + 4

def clientEntrySize : Nat := clientIdSize + nameSize

/-- Bytes in front of the content of a delivered message: sender, number, type, content size. -/
def messageEntryPreludeSize : Nat := clientIdSize + messageIdSize + 1 + 4

end MessageRelay.Protocol
