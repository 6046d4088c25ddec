import MessageRelay.Store.Directory
import MessageRelay.Store.Mailbox
import MessageRelay.Store.RelayStore

/-!
# The store in memory

A directory and a mailbox that last as long as the relay runs.
-/

set_option autoImplicit false

namespace MessageRelay.Store

open Protocol (ClientId MessageType)

/-- A store in memory. -/
structure Volatile where
  directory : Directory
  mailbox : Mailbox

namespace Volatile

/-- The store without clients and messages. -/
def empty : Volatile :=
  ⟨.empty, .empty⟩

def ask {α : Type} (question : Directory → α) : Action Volatile StoreError α := do
  let store ← Action.look
  return question store.directory

def insertClient (id : ClientId) (name : String) (key : Bytes) (now : Timestamp) :
    Action Volatile StoreError Bool := do
  let store ← Action.look
  let directory? ← Action.ofExcept (store.directory.insert? id name key now)
  Action.tell (store.directory.insertNotice id name)
  match directory? with
  | none => return false
  | some directory =>
    Action.replace { store with directory }
    return true

def updateLastSeen (id : ClientId) (now : Timestamp) : Action Volatile StoreError Bool := do
  let store ← Action.look
  match store.directory.see? id now with
  | none => return false
  | some (_, directory) =>
    Action.replace { store with directory }
    return true

def insertMessage (target sender : ClientId) (type : MessageType) (content : Bytes) :
    Action Volatile StoreError UInt32 := do
  let store ← Action.look
  let (id, mailbox) ← Action.ofExcept store.mailbox.allocate
  Action.tell (.debug (s!"Mailbox insert id={id} to={target.text} from={sender.text} "
    ++ s!"len={content.length}"))
  Action.replace { store with mailbox := mailbox.restore { id, target, sender, type, content } }
  return id

def deleteMessage (id : UInt32) : Action Volatile StoreError Bool := do
  let store ← Action.look
  Action.replace { store with mailbox := store.mailbox.forget id }
  Action.tellAll (store.mailbox.forgetNews id)
  return store.mailbox.contains id

instance : RelayStore Volatile where
  hasId id := ask fun directory => directory.hasId id
  hasName name := ask fun directory => directory.hasName name
  insertClient := insertClient
  clients := ask Directory.sorted
  publicKey name := ask fun directory => directory.keyOf? name
  idByName name := ask fun directory => directory.idOf? name
  updateLastSeen := updateLastSeen
  insertMessage := insertMessage
  unread target := do
    let store ← Action.look
    return store.mailbox.unread target
  deleteMessage := deleteMessage

end Volatile

end MessageRelay.Store
