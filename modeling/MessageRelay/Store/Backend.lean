import MessageRelay.Store.Durable
import MessageRelay.Store.Volatile

/-!
# Kinds of stores

A relay keeps its data in memory or in a folder of files; which of the two is decided when it
starts.
-/

set_option autoImplicit false

namespace MessageRelay.Store

open Protocol (ClientId MessageType)

/-- A store of either kind. -/
inductive Backend where
  | memory (store : Volatile)
  | files (store : Durable)

namespace Backend

variable {α : Type}

def directory : Backend → Directory
  | .memory store => store.directory
  | .files store => store.directory

def folder? : Backend → Option DataFolder
  | .memory _ => none
  | .files store => some store.folder

/-- The store with its folder changed behind its back, if it has one. -/
def withFolder (f : DataFolder → DataFolder) : Backend → Backend
  | .memory store => .memory store
  | .files store => .files { store with folder := f store.folder }

/-- Lets go of a store and opens it again: from its folder, or empty if it was in memory. A folder
that cannot be opened is kept as it is. -/
def reopen : Action Backend StoreError Unit :=
  ⟨fun backend =>
    match backend with
    | .memory _ => ⟨.ok (), .memory .empty, []⟩
    | .files store =>
      let out := Durable.openFolder.run store.folder
      match out.result with
      | .ok opened => ⟨.ok (), .files opened, out.notices⟩
      | .error e => ⟨.error e, .files { store with folder := out.state }, out.notices⟩⟩

/-- The operation of the one kind or of the other. -/
def either (onMemory : Action Volatile StoreError α) (onFiles : Action Durable StoreError α) :
    Action Backend StoreError α :=
  ⟨fun backend =>
    match backend with
    | .memory store =>
      let out := onMemory.run store
      ⟨out.result, .memory out.state, out.notices⟩
    | .files store =>
      let out := onFiles.run store
      ⟨out.result, .files out.state, out.notices⟩⟩

instance : RelayStore Backend where
  hasId id := either (RelayStore.hasId id) (RelayStore.hasId id)
  hasName name := either (RelayStore.hasName name) (RelayStore.hasName name)
  insertClient id name key now :=
    either (RelayStore.insertClient id name key now) (RelayStore.insertClient id name key now)
  clients := either RelayStore.clients RelayStore.clients
  publicKey name := either (RelayStore.publicKey name) (RelayStore.publicKey name)
  idByName name := either (RelayStore.idByName name) (RelayStore.idByName name)
  updateLastSeen id now :=
    either (RelayStore.updateLastSeen id now) (RelayStore.updateLastSeen id now)
  insertMessage target sender type content :=
    either (RelayStore.insertMessage target sender type content)
      (RelayStore.insertMessage target sender type content)
  unread target := either (RelayStore.unread target) (RelayStore.unread target)
  deleteMessage id := either (RelayStore.deleteMessage id) (RelayStore.deleteMessage id)

end Backend

end MessageRelay.Store
