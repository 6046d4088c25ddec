import MessageRelay.Protocol.Sizes
import MessageRelay.Text.Quoted

/-!
# Faults of a store

Why a store does not open or does not do what it is asked. `message` words each fault, and `kind`
says which of three groups it belongs to.
-/

set_option autoImplicit false

namespace MessageRelay.Store

/-- A fault of a store. -/
inductive StoreError where
  /-- A file could not be read or written. -/
  | fileAccess
  /-- The file of clients is not a list of clients. -/
  | badSnapshot (path : String)
  /-- The body of a message in the log is not a message. -/
  | badMessageRecord
  /-- A record of the log is of no known kind, or has a body that its kind does not have. -/
  | unknownRecord (kind : UInt8) (size : Nat) (path : String)
  /-- A name that its field on the wire cannot hold. -/
  | badNameLength (actual : Nat)
  /-- A key of another width than that of the wire. -/
  | badKeyLength (actual : Nat)
  /-- All numbers for messages have been handed out. -/
  | idsExhausted
  /-- A record whose length does not fit its field. -/
  | recordTooLarge (size : Nat)
  /-- The store was told to refuse. -/
  | refused (reason : String)
  deriving DecidableEq

/-- The three groups of faults. -/
inductive FaultKind where
  /-- The files cannot be used. -/
  | fileAccess
  /-- The files do not make sense. -/
  | corruption
  /-- The request does not make sense. -/
  | invalid
  deriving DecidableEq

namespace StoreError

/-- The group of a fault. -/
def kind : StoreError → FaultKind
  | .fileAccess => .fileAccess
  | .badSnapshot _ => .corruption
  | .badMessageRecord => .corruption
  | .unknownRecord _ _ _ => .corruption
  | .badNameLength _ => .invalid
  | .badKeyLength _ => .invalid
  | .idsExhausted => .invalid
  | .recordTooLarge _ => .invalid
  | .refused _ => .invalid

def message : StoreError → String
  | .fileAccess => "I/O error"
  | .badSnapshot path => s!"Data corruption: Invalid client snapshot {Text.quotedPath path}"
  | .badMessageRecord => "Data corruption: Invalid message record"
  | .unknownRecord kind size path =>
    s!"Data corruption: Unknown record kind {kind} ({size} bytes) in {Text.quotedPath path}"
  | .badNameLength actual =>
    s!"Invalid operation: name must be 1..={Protocol.maxNameLength} bytes, got {actual}"
  | .badKeyLength actual =>
    s!"Invalid operation: public key must be {Protocol.publicKeySize} bytes, got {actual}"
  | .idsExhausted => "Invalid operation: message id space exhausted"
  | .recordTooLarge size => s!"Invalid operation: record too large: {size}"
  | .refused reason => s!"Invalid operation: {reason}"

end StoreError

end MessageRelay.Store
