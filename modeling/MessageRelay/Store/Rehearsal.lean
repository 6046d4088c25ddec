import MessageRelay.Store.RelayStore
import MessageRelay.Table

/-!
# Rehearsed stores

A store beside a plan of calls that it does not get to see: the next calls of an operation are
answered from the plan, by a failure or by a value that the operation could have given. A plan shows
how the relay behaves when its store does not.
-/

set_option autoImplicit false

namespace MessageRelay.Store

open Protocol (ClientId MessageType)

/-- The operations of a store. -/
inductive Operation where
  | hasId
  | hasName
  | insertClient
  | clients
  | publicKey
  | idByName
  | updateLastSeen
  | insertMessage
  | unread
  | deleteMessage
  deriving DecidableEq

/-- What a planned call is answered with. -/
inductive Substitute where
  /-- The call fails. -/
  | refusal
  /-- The call gives this truth value, or no value where one may be missing. A call that gives
  neither reaches the store. -/
  | answer (value : Bool)
  deriving DecidableEq

/-- A store with a plan: what the next calls of an operation are answered with, and how many. -/
structure Rehearsal (σ : Type) where
  store : σ
  plan : Table Operation (Substitute × Nat)

namespace Rehearsal

variable {σ α : Type}

/-- Plans the next `times` calls of an operation, in place of what was planned for it. -/
def planCalls (operation : Operation) (substitute : Substitute) (times : Nat)
    (rehearsal : Rehearsal σ) : Rehearsal σ :=
  { rehearsal with plan := rehearsal.plan.put operation (substitute, times) }

/-- The substitute for this call of an operation, which is then used up. -/
def takeSubstitute (operation : Operation) :
    Action (Rehearsal σ) StoreError (Option Substitute) := do
  let rehearsal ← Action.look
  match rehearsal.plan.find? operation with
  | some (substitute, times + 1) =>
    Action.replace { rehearsal with plan := rehearsal.plan.put operation (substitute, times) }
    return some substitute
  | _ => return none

/-- An operation that a truth value may stand for, as `instead?` says. -/
def rehearse (operation : Operation) (instead? : Bool → Option α) (action : Action σ StoreError α) :
    Action (Rehearsal σ) StoreError α := do
  let actual := action.on Rehearsal.store fun store rehearsal => { rehearsal with store }
  match ← takeSubstitute operation with
  | none => actual
  | some .refusal => Action.fail (.refused "injected")
  | some (.answer value) =>
    match instead? value with
    | some a => return a
    | none => actual

instance [RelayStore σ] : RelayStore (Rehearsal σ) where
  hasId id := rehearse .hasId some (RelayStore.hasId id)
  hasName name := rehearse .hasName some (RelayStore.hasName name)
  insertClient id name key now :=
    rehearse .insertClient some (RelayStore.insertClient id name key now)
  clients := rehearse .clients (fun _ => none) RelayStore.clients
  publicKey name := rehearse .publicKey (fun _ => some none) (RelayStore.publicKey name)
  idByName name := rehearse .idByName (fun _ => some none) (RelayStore.idByName name)
  updateLastSeen id now :=
    rehearse .updateLastSeen some (RelayStore.updateLastSeen id now)
  insertMessage target sender type content :=
    rehearse .insertMessage (fun _ => none) (RelayStore.insertMessage target sender type content)
  unread target := rehearse .unread (fun _ => none) (RelayStore.unread target)
  deleteMessage id := rehearse .deleteMessage some (RelayStore.deleteMessage id)

end Rehearsal

end MessageRelay.Store
