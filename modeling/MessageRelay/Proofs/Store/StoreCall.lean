import MessageRelay.Proofs.ActionSimulation
import MessageRelay.Proofs.Store.DirectoryOrder
import MessageRelay.Store.Mailbox
import MessageRelay.Store.RelayStore

/-!
# Calls of a store

The operations of a store as data, so that a run can be a list of calls, and the store as a client
sees it: its clients in the order of their names, its messages in the order in which they came and
the number that comes next. What a call answers where nothing fails, and what it leaves, depends on
nothing else.
-/

set_option autoImplicit false

namespace MessageRelay.Store

open Protocol (ClientId MessageType)

/-- A call of an operation that changes nothing. -/
inductive Question where
  | hasId (id : ClientId)
  | hasName (name : String)
  | clients
  | publicKey (name : String)
  | idByName (name : String)
  | unread (target : ClientId)
  deriving DecidableEq

/-- A call of an operation. -/
inductive StoreCall where
  | ask (question : Question)
  | insertClient (id : ClientId) (name : String) (key : Bytes)
  | updateLastSeen (id : ClientId)
  | insertMessage (target sender : ClientId) (type : MessageType) (content : Bytes)
  | deleteMessage (id : UInt32)
  deriving DecidableEq

/-- What a call gives if it does not fail. -/
inductive StoreReply where
  | truth (value : Bool)
  | clients (records : List ClientRecord)
  | key (key? : Option Bytes)
  | id (id? : Option ClientId)
  | number (id : UInt32)
  | messages (messages : List StoredMessage)
  deriving DecidableEq

/-- The answer to a call. -/
abbrev StoreAnswer : Type := Except StoreError StoreReply

section

variable {σ : Type} [RelayStore σ]

/-- The work of a question. -/
def Question.perform : Question → Action σ StoreError StoreReply
  | .hasId id => do return .truth (← RelayStore.hasId id)
  | .hasName name => do return .truth (← RelayStore.hasName name)
  | .clients => do return .clients (← RelayStore.clients)
  | .publicKey name => do return .key (← RelayStore.publicKey name)
  | .idByName name => do return .id (← RelayStore.idByName name)
  | .unread target => do return .messages (← RelayStore.unread target)

/-- The work of a call that is made at a moment. -/
def StoreCall.perform (now : Timestamp) : StoreCall → Action σ StoreError StoreReply
  | .ask question => question.perform
  | .insertClient id name key => do return .truth (← RelayStore.insertClient id name key now)
  | .updateLastSeen id => do return .truth (← RelayStore.updateLastSeen id now)
  | .insertMessage target sender type content => do
    return .number (← RelayStore.insertMessage target sender type content)
  | .deleteMessage id => do return .truth (← RelayStore.deleteMessage id)

end

/-! ## Numbers -/

/-- The number that an answer gives to a message. -/
def numbersOf : StoreAnswer → List UInt32
  | .ok (.number id) => [id]
  | _ => []

/-- The number that comes next after an answer. -/
def numberAfter (next : UInt32) : StoreAnswer → UInt32
  | .ok (.number id) => id + 1
  | _ => next

/-- A number that was not below the next one is above all that were. -/
theorem pairwise_append_numbersOf {issued : List UInt32} {next : UInt32} {answer : StoreAnswer}
    (ordered : issued.Pairwise (· < ·)) (below : ∀ id ∈ issued, id < next)
    (above : ∀ id ∈ numbersOf answer, next ≤ id) :
    (issued ++ numbersOf answer).Pairwise (· < ·) := by
  refine List.pairwise_append.2 ⟨ordered, ?_, ?_⟩
  · unfold numbersOf
    split
    · exact List.pairwise_singleton _ _
    · exact List.Pairwise.nil
  · intro id hid id' hid'
    exact UInt32.lt_of_lt_of_le (below id hid) (above id' hid')

/-! ## Contents -/

/-- The clients of a store in the order of their names, and its messages in the order in which they
came. -/
structure Contents where
  clients : List ClientRecord
  messages : List StoredMessage
  deriving DecidableEq

namespace Contents

/-- What a store without clients and messages has. -/
def empty : Contents :=
  ⟨[], []⟩

/-- The reply to a question. -/
def reply (contents : Contents) : Question → StoreReply
  | .hasId id => .truth (contents.clients.any fun record => record.id = id)
  | .hasName name => .truth (contents.clients.any fun record => record.name = name)
  | .clients => .clients contents.clients
  | .publicKey name =>
    .key ((contents.clients.find? fun record => record.name = name).map (·.publicKey))
  | .idByName name => .id ((contents.clients.find? fun record => record.name = name).map (·.id))
  | .unread target => .messages (contents.messages.filter fun message => message.target = target)

/-- What a store with a directory and a mailbox has. -/
def of (directory : Directory) (mailbox : Mailbox) : Contents :=
  ⟨directory.sorted, mailbox.messages⟩

/-- The answer to a call where nothing fails. -/
def answer (contents : Contents) (next : UInt32) : StoreCall → StoreAnswer
  | .ask question => .ok (contents.reply question)
  | .insertClient id name key =>
    (Directory.checkFields name key).map fun _ =>
      .truth !((contents.clients.any fun record => record.id = id)
        || contents.clients.any fun record => record.name = name)
  | .updateLastSeen id => .ok (.truth (contents.clients.any fun record => record.id = id))
  | .insertMessage _ _ _ _ =>
    if next = Mailbox.lastId then .error .idsExhausted else .ok (.number next)
  | .deleteMessage id => .ok (.truth (contents.messages.any fun message => message.id = id))

/-- The contents after a call that was made at a moment and got an answer. -/
def after (now : Timestamp) (call : StoreCall) (answer : StoreAnswer) (contents : Contents) :
    Contents :=
  match call, answer with
  | .insertClient id name key, .ok (.truth true) =>
    { contents with
      clients := Directory.arrange
        (contents.clients ++ [{ id, name, publicKey := key, lastSeen := now }]) }
  | .updateLastSeen id, .ok (.truth true) =>
    { contents with clients := contents.clients.map (Directory.seenAt id now) }
  | .insertMessage target sender type content, .ok (.number id) =>
    { contents with
      messages := contents.messages ++ [{ id, target, sender, type, content }] }
  | .deleteMessage id, .ok (.truth true) =>
    { contents with messages := contents.messages.filter fun message => message.id ≠ id }
  | _, _ => contents

/-- A message that waits after a call waited before it or got its number from it. -/
theorem mem_messages_after {now : Timestamp} {call : StoreCall} {answer : StoreAnswer}
    {contents : Contents} {message : StoredMessage}
    (waits : message ∈ (contents.after now call answer).messages) :
    message ∈ contents.messages ∨ message.id ∈ numbersOf answer := by
  unfold after at waits
  split at waits
  · exact .inl waits
  · exact .inl waits
  · obtain old | new := List.mem_append.1 waits
    · exact .inl old
    · rw [List.mem_singleton.1 new]
      exact .inr (List.mem_singleton.2 rfl)
  · exact .inl (List.mem_filter.1 waits).1
  · exact .inl waits

end Contents

/-- The reply to a question as it is looked up in a directory and a mailbox. -/
def Question.lookUp (directory : Directory) (mailbox : Mailbox) : Question → StoreReply
  | .hasId id => .truth (directory.hasId id)
  | .hasName name => .truth (directory.hasName name)
  | .clients => .clients directory.sorted
  | .publicKey name => .key (directory.keyOf? name)
  | .idByName name => .id (directory.idOf? name)
  | .unread target => .messages (mailbox.unread target)

/-- A question is answered from a directory and a mailbox as from their contents. -/
theorem Question.lookUp_eq {directory : Directory} (consistent : directory.Consistent)
    (mailbox : Mailbox) (question : Question) :
    question.lookUp directory mailbox = (Contents.of directory mailbox).reply question := by
  cases question with
  | hasId id => exact congrArg StoreReply.truth (consistent.hasId_eq id)
  | hasName name => exact congrArg StoreReply.truth (consistent.hasName_eq name)
  | publicKey name => exact congrArg StoreReply.key (consistent.keyOf?_eq name)
  | idByName name => exact congrArg StoreReply.id (consistent.idOf?_eq name)
  | clients | unread => rfl

end MessageRelay.Store
