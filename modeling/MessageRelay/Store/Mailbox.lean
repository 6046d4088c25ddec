import MessageRelay.Log.Notice
import MessageRelay.Store.Record
import MessageRelay.Store.StoreError
import MessageRelay.Table

/-!
# The mailbox

The messages that wait, in the order in which they came. Each message gets the next number, and
numbers never come back: when they run out, no further message is taken. A message is removed by
its number, which leads to the client in whose queue it waits.
-/

set_option autoImplicit false

namespace MessageRelay.Store

open Log (Notice)
open Protocol (ClientId)

/-- Messages that wait. -/
structure Mailbox where
  /-- The messages, oldest first. -/
  messages : List StoredMessage
  /-- The target of the message with a number. -/
  owners : Table UInt32 ClientId
  /-- The number of the next message. -/
  nextId : UInt32

namespace Mailbox

/-- The mailbox without messages. Numbers start at one. -/
def empty : Mailbox :=
  ⟨[], [], 1⟩

/-- The messages that wait for a client, oldest first. -/
def unread (target : ClientId) (mailbox : Mailbox) : List StoredMessage :=
  mailbox.messages.filter fun message => message.target = target

/-- All messages in the order of their numbers. -/
def pending (mailbox : Mailbox) : List StoredMessage :=
  mailbox.messages.mergeSort fun a b => a.id ≤ b.id

/-- Whether a message with a number waits. -/
def contains (id : UInt32) (mailbox : Mailbox) : Bool :=
  mailbox.owners.has id

/-- Puts a message at the end of its target's queue. -/
def restore (message : StoredMessage) (mailbox : Mailbox) : Mailbox :=
  { mailbox with
    messages := mailbox.messages ++ [message]
    owners := mailbox.owners.put message.id message.target }

/-- Takes out the message with a number. -/
def forget (id : UInt32) (mailbox : Mailbox) : Mailbox :=
  match mailbox.owners.find? id with
  | none => mailbox
  | some owner =>
    { mailbox with
      messages := mailbox.messages.filter fun message =>
        ¬ (message.id = id ∧ message.target = owner)
      owners := mailbox.owners.erase id }

/-- What there is to say about taking out the message with a number: nothing if there is none. -/
def forgetNews (id : UInt32) (mailbox : Mailbox) : List Notice :=
  match mailbox.owners.find? id with
  | none => []
  | some owner => [.debug s!"Mailbox delete id={id} to={owner.text}"]

/-- Makes sure that no number below `next` is handed out. -/
def raiseNextId (next : UInt32) (mailbox : Mailbox) : Mailbox :=
  { mailbox with nextId := if mailbox.nextId < next then next else mailbox.nextId }

/-- The last number, which is never handed out. -/
def lastId : UInt32 := 4294967295

/-- The next number, which is then used up. -/
def allocate (mailbox : Mailbox) : Except StoreError (UInt32 × Mailbox) :=
  if mailbox.nextId = lastId then .error .idsExhausted
  else .ok (mailbox.nextId, { mailbox with nextId := mailbox.nextId + 1 })

end Mailbox

end MessageRelay.Store
