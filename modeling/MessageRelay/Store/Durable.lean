import MessageRelay.Store.DataFolder
import MessageRelay.Store.Directory
import MessageRelay.Store.Journal
import MessageRelay.Store.RelayStore

/-!
# The store in files

A directory and a mailbox in memory beside a folder that they can be loaded from again. A change of
the directory counts only once the snapshot is written, and a change of the mailbox only once its
record is in the log; until then memory stays as it was, but for the number of a message that could
not be kept, which is used up.
-/

set_option autoImplicit false

namespace MessageRelay.Store

open Log (Notice)
open Protocol (ClientId MessageType)

/-- A store in files. -/
structure Durable where
  folder : DataFolder
  directory : Directory
  mailbox : Mailbox

namespace Durable

/-- The content of the file of clients. -/
def snapshotOf (directory : Directory) : Bytes :=
  (Json.array (directory.sorted.map ClientRecord.toJson)).pretty

/-- The clients in the content of a file of clients. -/
def ofSnapshot? (path : String) (content : Bytes) : Except StoreError (List ClientRecord) :=
  if (Text.ofUtf8 content).isNone then .error .fileAccess
  else
    match (Json.ofBytes? content).bind ClientRecord.listOfJson? with
    | some records => .ok records
    | none => .error (.badSnapshot path)

/-- The directory that a folder holds. -/
def loadDirectory : Action DataFolder StoreError Directory := do
  let folder ← Action.look
  match folder.snapshot? with
  | none => return .empty
  | some content =>
    let records ← Action.ofExcept (ofSnapshot? folder.snapshotPath content)
    Action.tell (.info
      s!"Loaded {records.length} clients from {Text.quotedPath folder.snapshotPath}")
    return .ofRecords records

/-- What there is to say about the end of a log, or the fault that it is. -/
def noteEnd (path : String) (applied : Nat) : JournalEnd → Action DataFolder StoreError Unit
  | .complete => return ()
  | .tornFront =>
    Action.tell (.warn s!"Torn record header at end of {Text.quotedPath path}, ignoring tail")
  | .tornBody =>
    Action.tell (.warn s!"Incomplete record in {Text.quotedPath path}, ignoring tail")
  | .mismatch =>
    Action.tell (.warn
      s!"CRC mismatch in {Text.quotedPath path} after {applied} records, ignoring tail")
  | .unknownRecord kind size => Action.fail (.unknownRecord kind size path)
  | .badMessage => Action.fail .badMessageRecord

/-- The mailbox that a folder holds. Its log is written anew, as short as it can be. -/
def loadMailbox : Action DataFolder StoreError Mailbox := do
  let folder ← Action.look
  let mailbox ← match folder.journal? with
    | none => pure Mailbox.empty
    | some log =>
      let (entries, ending) := Journal.scan log
      Action.tellAll (Journal.news .empty entries)
      noteEnd folder.journalPath entries.length ending
      Action.tell (.debug (s!"Replayed {entries.length} mailbox records from "
        ++ Text.quotedPath folder.journalPath))
      let mailbox := Journal.replay entries
      Action.tell (.info
        s!"Recovered {mailbox.messages.length} pending messages from {Text.quotedPath folder.journalPath}")
      pure mailbox
  let compacted ← Action.ofExcept (Journal.encode (Journal.compaction mailbox))
  DataFolder.replaceJournal compacted
  return mailbox

/-- The store that a folder holds. -/
def openFolder : Action DataFolder StoreError Durable := do
  let directory ← loadDirectory
  let mailbox ← loadMailbox
  let folder ← Action.look
  return { folder, directory, mailbox }

/-- Work on the folder of a store. -/
def onFolder {α : Type} (action : Action DataFolder StoreError α) : Action Durable StoreError α :=
  action.on Durable.folder fun folder store => { store with folder }

/-- Writes a directory and then takes it over. -/
def commit (directory : Directory) : Action Durable StoreError Unit := do
  onFolder (DataFolder.writeSnapshot (snapshotOf directory))
  Action.change fun store => { store with directory }

/-- Writes an entry to the log and then takes it over. -/
def record (entry : JournalEntry) (mailbox : Mailbox) : Action Durable StoreError Unit := do
  let bytes ← Action.ofExcept entry.encode
  onFolder (DataFolder.appendJournal bytes)
  Action.change fun store => { store with mailbox }

/-- A question about the directory. -/
def ask {α : Type} (question : Directory → α) : Action Durable StoreError α := do
  let store ← Action.look
  return question store.directory

def insertClient (id : ClientId) (name : String) (key : Bytes) (now : Timestamp) :
    Action Durable StoreError Bool := do
  let store ← Action.look
  let directory? ← Action.ofExcept (store.directory.insert? id name key now)
  Action.tell (store.directory.insertNotice id name)
  match directory? with
  | none => return false
  | some directory =>
    match ← (commit directory).attempt with
    | .ok () => return true
    | .error e =>
      Action.tell (.warn
        s!"Registration of {Text.quoted name} not persisted, rolled back: {e.message}")
      Action.fail e

def updateLastSeen (id : ClientId) (now : Timestamp) : Action Durable StoreError Bool := do
  let store ← Action.look
  match store.directory.see? id now with
  | none => return false
  | some (_, directory) =>
    commit directory
    return true

def insertMessage (target sender : ClientId) (type : MessageType) (content : Bytes) :
    Action Durable StoreError UInt32 := do
  let store ← Action.look
  let (id, mailbox) ← Action.ofExcept store.mailbox.allocate
  Action.replace { store with mailbox }
  let message : StoredMessage := { id, target, sender, type, content }
  record (.inserted message) (mailbox.restore message)
  return id

def deleteMessage (id : UInt32) : Action Durable StoreError Bool := do
  let store ← Action.look
  if store.mailbox.contains id then
    record (.deleted id) (store.mailbox.forget id)
    Action.tellAll (store.mailbox.forgetNews id)
    return true
  else
    return false

instance : RelayStore Durable where
  hasId id := ask fun directory => directory.hasId id
  hasName name := ask fun directory => directory.hasName name
  insertClient := insertClient
  clients := ask Directory.sorted
  publicKey name := ask fun directory => directory.keyOf? name
  idByName name := ask fun directory => directory.idOf? name
  updateLastSeen := updateLastSeen
  insertMessage := insertMessage
  unread target := do
    let store ← Action.look
    return store.mailbox.unread target
  deleteMessage := deleteMessage

end Durable

end MessageRelay.Store
