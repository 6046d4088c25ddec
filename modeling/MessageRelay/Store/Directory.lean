import MessageRelay.Log.Notice
import MessageRelay.Store.Record
import MessageRelay.Store.StoreError
import MessageRelay.Table
import MessageRelay.Text.Utf8

/-!
# The directory of clients

Clients by their identifiers, and identifiers by the names of the clients. A new client is taken in
only if neither its identifier nor its name is in use and the wire can carry both its name and its
key. A client that was stored before is put back without these checks, the later one in place of
the earlier.
-/

set_option autoImplicit false

namespace MessageRelay.Store

open Log (Notice)
open Protocol (ClientId)

/-- Registered clients. -/
structure Directory where
  records : Table ClientId ClientRecord
  names : Table String ClientId

namespace Directory

/-- The directory without clients. -/
def empty : Directory :=
  ⟨[], []⟩

def hasId (id : ClientId) (directory : Directory) : Bool :=
  directory.records.has id

def hasName (name : String) (directory : Directory) : Bool :=
  directory.names.has name

/-- The identifier under a name. -/
def idOf? (name : String) (directory : Directory) : Option ClientId :=
  directory.names.find? name

/-- The public key under a name. -/
def keyOf? (name : String) (directory : Directory) : Option Bytes :=
  (directory.idOf? name).bind fun id => (directory.records.find? id).map (·.publicKey)

/-- All clients in the order of their names' bytes. -/
def sorted (directory : Directory) : List ClientRecord :=
  (directory.records.map (·.2)).mergeSort fun a b => Text.le a.name b.name

/-- Puts a client into the directory, in place of one with its identifier. -/
def restore (record : ClientRecord) (directory : Directory) : Directory where
  records := directory.records.put record.id record
  names := directory.names.put record.name record.id

/-- The directory of clients that were stored one after the other. -/
def ofRecords (records : List ClientRecord) : Directory :=
  records.foldl (fun directory record => directory.restore record) empty

/-- Refuses a name or a key that the wire cannot carry. -/
def checkFields (name : String) (key : Bytes) : Except StoreError Unit :=
  let length := (Text.utf8 name).length
  if length = 0 ∨ Protocol.maxNameLength < length then .error (.badNameLength length)
  else if key.length ≠ Protocol.publicKeySize then .error (.badKeyLength key.length)
  else .ok ()

/-- The directory with a new client, or nothing if the identifier or the name is in use. -/
def insert? (id : ClientId) (name : String) (key : Bytes) (now : Timestamp)
    (directory : Directory) : Except StoreError (Option Directory) := do
  checkFields name key
  if directory.hasId id || directory.hasName name then .ok none
  else .ok (some (directory.restore { id, name, publicKey := key, lastSeen := now }))

/-- What there is to say about a new client with fields that are not refused. -/
def insertNotice (id : ClientId) (name : String) (directory : Directory) : Notice :=
  if directory.hasId id then .debug s!"Directory insert rejected, id {id.text} already present"
  else if directory.hasName name then
    .debug s!"Directory insert rejected, name {Text.quoted name} already taken"
  else .debug s!"Directory insert id={id.text} name={Text.quoted name}"

/-- The directory without a client. Its name is set free if it leads to that client. -/
def remove (id : ClientId) (directory : Directory) : Directory :=
  match directory.records.find? id with
  | none => directory
  | some record => {
      records := directory.records.erase id
      names :=
        if directory.names.find? record.name = some id then directory.names.erase record.name
        else directory.names }

/-- The directory in which a client was last seen at a moment, with the moment before, or nothing
if there is no such client. -/
def see? (id : ClientId) (moment : Timestamp) (directory : Directory) :
    Option (Timestamp × Directory) :=
  (directory.records.find? id).map fun record =>
    (record.lastSeen, { directory with
      records := directory.records.put id { record with lastSeen := moment } })

end Directory

end MessageRelay.Store
