import MessageRelay.Action
import MessageRelay.Bytes
import MessageRelay.Store.StoreError

/-!
# The folder of a durable store

Two files: a snapshot of all clients, which is written anew as a whole, and the log of the mailbox,
which grows. A write either happens as a whole or leaves the file as it was: a snapshot is written
beside the old one and then takes its place, and a log is cut back after a write that failed. Which
of the writes to come fail is part of the folder.
-/

set_option autoImplicit false

namespace MessageRelay.Store

/-- A folder with the files of a store. -/
structure DataFolder where
  /-- The path by which messages call the folder. -/
  path : String
  /-- The file of clients, if there is one. -/
  snapshot? : Option Bytes
  /-- The log of the mailbox, if there is one. -/
  journal? : Option Bytes
  /-- Whether each of the next snapshots fails to be written; later ones do not. -/
  snapshotFaults : List Bool
  /-- The bytes by which each of the next writes may make the log grow; later ones have room. -/
  rooms : List Nat

namespace DataFolder

/-- The folder without files, where nothing fails. -/
def empty (path : String) : DataFolder :=
  ⟨path, none, none, [], []⟩

/-- The path of a file in a folder. -/
def pathOf (folder file : String) : String :=
  if folder.isEmpty then file
  else if folder.endsWith "/" then folder ++ file
  else folder ++ "/" ++ file

def snapshotPath (folder : DataFolder) : String :=
  pathOf folder.path "clients.json"

def journalPath (folder : DataFolder) : String :=
  pathOf folder.path "mailbox.log"

def writeSnapshot (content : Bytes) : Action DataFolder StoreError Unit := do
  let folder ← Action.look
  match folder.snapshotFaults with
  | true :: faults =>
    Action.replace { folder with snapshotFaults := faults }
    Action.fail .fileAccess
  | faults =>
    Action.replace { folder with snapshotFaults := faults.tail, snapshot? := some content }

/-- Puts a log in place of the present one. -/
def replaceJournal (content : Bytes) : Action DataFolder StoreError Unit :=
  Action.change fun folder => { folder with journal? := some content }

/-- Writes a record at the end of the log. -/
def appendJournal (record : Bytes) : Action DataFolder StoreError Unit := do
  let folder ← Action.look
  let written : DataFolder := { folder with
    rooms := folder.rooms.tail
    journal? := some (folder.journal?.getD [] ++ record) }
  match folder.rooms with
  | room :: rooms =>
    if room < record.length then
      Action.replace { folder with rooms := rooms }
      Action.fail .fileAccess
    else
      Action.replace written
  | [] => Action.replace written

end DataFolder

end MessageRelay.Store
