import MessageRelay.Crc32
import MessageRelay.Store.JsonForm
import MessageRelay.Store.Mailbox

/-!
# The log of the mailbox

The log is a sequence of records, each of which states the length of its body, its kind and the
check value of both. Reading a log gives the entries of its records up to the first place where the
log cannot be read on, and says why that is its end. A tail that a crash can leave behind is passed
over; a record that is whole but means nothing is a fault.
-/

set_option autoImplicit false

namespace MessageRelay.Store

/-- What a record of the log says. -/
inductive JournalEntry where
  /-- A message came. -/
  | inserted (message : StoredMessage)
  /-- The message with a number was removed. -/
  | deleted (id : UInt32)
  /-- No number below this one is to be handed out again. -/
  | nextId (id : UInt32)
  deriving DecidableEq

/-- Why a log is not read any further. -/
inductive JournalEnd where
  /-- Nothing is left. -/
  | complete
  /-- What is left is shorter than the front of a record. -/
  | tornFront
  /-- What is left is shorter than a record says it is. -/
  | tornBody
  /-- The check value is not that of the record. -/
  | mismatch
  /-- A record of an unknown kind, or with a body that its kind does not have. -/
  | unknownRecord (kind : UInt8) (size : Nat)
  /-- A message's record whose body is not a message. -/
  | badMessage
  deriving DecidableEq

namespace JournalEntry

def kind : JournalEntry → UInt8
  | .inserted _ => 1
  | .deleted _ => 2
  | .nextId _ => 3

def body : JournalEntry → Bytes
  | .inserted message => message.toJson.compact
  | .deleted id => Bytes.ofUInt32 id
  | .nextId id => Bytes.ofUInt32 id

/-- Bytes in front of the body of a record: its length, its kind and its check value. -/
def frontSize : Nat := 4 + 1 + 4

/-- The check value of a record. -/
def checksum (kind : UInt8) (body : Bytes) : UInt32 :=
  Crc32.checksum (kind :: body)

/-- The record with a kind and a body. -/
def record (kind : UInt8) (body : Bytes) : Except StoreError Bytes :=
  if body.length < 4294967296 then
    .ok (Bytes.ofUInt32 (UInt32.ofNat body.length) ++ kind :: Bytes.ofUInt32 (checksum kind body)
      ++ body)
  else
    .error (.recordTooLarge body.length)

def encode (entry : JournalEntry) : Except StoreError Bytes :=
  record entry.kind entry.body

/-- The entry of a record, or why it is none. -/
def ofRecord (kind : UInt8) (body : Bytes) : Except JournalEnd JournalEntry :=
  if kind = 1 then
    match (Json.ofBytes? body).bind StoredMessage.ofJson? with
    | some message => .ok (.inserted message)
    | none => .error .badMessage
  else if kind = 2 ∧ body.length = 4 then .ok (.deleted (Bytes.toUInt32 body))
  else if kind = 3 ∧ body.length = 4 then .ok (.nextId (Bytes.toUInt32 body))
  else .error (.unknownRecord kind body.length)

/-- The number after another, if there is one. -/
def successor (id : UInt32) : UInt32 :=
  if id = Mailbox.lastId then id else id + 1

/-- The mailbox after what an entry says. -/
def apply (mailbox : Mailbox) : JournalEntry → Mailbox
  | .inserted message => (mailbox.raiseNextId (successor message.id)).restore message
  | .deleted id => mailbox.forget id
  | .nextId id => mailbox.raiseNextId id

/-- What there is to say about what an entry does to a mailbox. -/
def news (mailbox : Mailbox) : JournalEntry → List Log.Notice
  | .deleted id => mailbox.forgetNews id
  | .inserted _ | .nextId _ => []

end JournalEntry

namespace Journal

/-- The first record of a log, as its entry and the rest of the log. -/
def readRecord (log : Bytes) : Except JournalEnd (JournalEntry × Bytes) :=
  if log.length < JournalEntry.frontSize then .error .tornFront
  else
    let size := (Bytes.toUInt32 log).toNat
    let kind := (log.drop 4).headD 0
    let stated := Bytes.toUInt32 (log.drop 5)
    let rest := log.drop JournalEntry.frontSize
    if rest.length < size then .error .tornBody
    else
      let body := rest.take size
      if stated ≠ JournalEntry.checksum kind body then .error .mismatch
      else (JournalEntry.ofRecord kind body).map fun entry => (entry, rest.drop size)

/-- A record takes at least the bytes of its front. -/
theorem length_lt_of_readRecord {log rest : Bytes} {entry : JournalEntry}
    (h : readRecord log = .ok (entry, rest)) : rest.length < log.length := by
  unfold readRecord at h
  split at h
  · cases h
  rename_i hl
  simp only at h
  split at h
  · cases h
  split at h
  · cases h
  revert h
  generalize JournalEntry.ofRecord _ _ = r
  intro h
  cases r with
  | error e => cases h
  | ok entry' =>
    cases h
    simp only [List.length_drop, JournalEntry.frontSize] at *
    omega

/-- The entries of a log and why it ends. -/
def scan (log : Bytes) : List JournalEntry × JournalEnd :=
  if log.isEmpty then ([], .complete)
  else
    match h : readRecord log with
    | .error fault => ([], fault)
    | .ok (entry, rest) =>
      have := length_lt_of_readRecord h
      let (entries, fault) := scan rest
      (entry :: entries, fault)
termination_by log.length

/-- The mailbox that a sequence of entries leads to. -/
def replay (entries : List JournalEntry) : Mailbox :=
  entries.foldl JournalEntry.apply .empty

/-- What there is to say on the way from a mailbox along a sequence of entries. -/
def news (mailbox : Mailbox) : List JournalEntry → List Log.Notice
  | [] => []
  | entry :: entries => entry.news mailbox ++ news (entry.apply mailbox) entries

/-- The entries of the shortest log that leads to a mailbox: its next number and then its messages
in the order of their numbers. -/
def compaction (mailbox : Mailbox) : List JournalEntry :=
  .nextId mailbox.nextId :: mailbox.pending.map .inserted

/-- The log of a sequence of entries. -/
def encode (entries : List JournalEntry) : Except StoreError Bytes :=
  (entries.mapM JournalEntry.encode).map List.flatten

end Journal

end MessageRelay.Store
