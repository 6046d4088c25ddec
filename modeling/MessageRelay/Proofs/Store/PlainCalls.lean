import MessageRelay.Proofs.Store.Recovery
import MessageRelay.Store.Volatile

/-!
# Calls where nothing fails

The contents and the number that comes next say what a store answers and what it has afterwards. A
store in memory always goes by them, and a store in files does where no write fails and the record of
a message fits its length field.
-/

set_option autoImplicit false

namespace MessageRelay.Store

open Protocol (ClientId MessageType)

namespace Contents

/-! ## Answers from a directory and a mailbox -/

/-- The answer to a new client, from a directory. -/
theorem answer_insertClient {directory : Directory} (consistent : directory.Consistent)
    (mailbox : Mailbox) (next : UInt32) (id : ClientId) (name : String) (key : Bytes)
    (now : Timestamp) :
    (of directory mailbox).answer next (.insertClient id name key)
      = (directory.insert? id name key now).map fun directory? => .truth directory?.isSome := by
  rw [answer, consistent.insert?_eq]
  cases Directory.checkFields name key with
  | error e => rfl
  | ok _ =>
    simp only [Except.map, of]
    split
    · rename_i taken
      rw [taken]
      rfl
    · rename_i free
      rw [Bool.not_eq_true] at free
      rw [free]
      rfl

/-- The answer to the news that a client was seen, from a directory. -/
theorem answer_updateLastSeen {directory : Directory} (consistent : directory.Consistent)
    (mailbox : Mailbox) (next : UInt32) (id : ClientId) (now : Timestamp) :
    (of directory mailbox).answer next (.updateLastSeen id)
      = .ok (.truth (directory.see? id now).isSome) := by
  rw [consistent.isSome_see?]
  rfl

/-- The answer to a removal, from a mailbox. -/
theorem answer_deleteMessage (directory : Directory) {mailbox : Mailbox} (kept : mailbox.WellKept)
    (next : UInt32) (id : UInt32) :
    (of directory mailbox).answer next (.deleteMessage id) = .ok (.truth (mailbox.contains id)) := by
  have same : mailbox.contains id = mailbox.messages.any fun message => message.id = id := by
    rw [Bool.eq_iff_iff, kept.contains_iff, List.any_eq_true]
    simp only [decide_eq_true_eq]
  rw [same]
  rfl

/-- A number that is given is the next one, which is not the last one then. -/
theorem numbers_answer (contents : Contents) (next : UInt32) (call : StoreCall) :
    next ≤ numberAfter next (contents.answer next call) ∧
      ∀ id ∈ numbersOf (contents.answer next call),
        next ≤ id ∧ id < numberAfter next (contents.answer next call) := by
  have none : ∀ answer : StoreAnswer, numbersOf answer = [] → numberAfter next answer = next →
      next ≤ numberAfter next answer ∧
        ∀ id ∈ numbersOf answer, next ≤ id ∧ id < numberAfter next answer := by
    intro answer numbers after
    rw [numbers, after]
    exact ⟨UInt32.le_refl next, by simp⟩
  cases call with
  | ask question => cases question <;> exact none _ rfl rfl
  | insertClient id name key =>
    rw [answer]
    cases Directory.checkFields name key <;> exact none _ rfl rfl
  | updateLastSeen id => exact none _ rfl rfl
  | deleteMessage id => exact none _ rfl rfl
  | insertMessage target sender type content =>
    rw [answer]
    split
    · exact none _ rfl rfl
    · rename_i room
      refine ⟨UInt32.le_of_lt (Mailbox.lt_next room), ?_⟩
      intro id given
      rw [List.mem_singleton.1 given]
      exact ⟨UInt32.le_refl next, Mailbox.lt_next room⟩

end Contents

/-- A call is answered as contents and a next number say, and leads to others as they say. -/
structure Follows (contents : Contents) (next : UInt32) (now : Timestamp) (call : StoreCall)
    (answer : StoreAnswer) (contents' : Contents) (next' : UInt32) : Prop where
  answered : answer = contents.answer next call
  left : contents' = contents.after now call answer
  numbered : next' = numberAfter next answer

/-! ## In memory -/

namespace Volatile

/-- The clients and the messages of a store in memory. -/
def contents (store : Volatile) : Contents :=
  .of store.directory store.mailbox

/-- What holds in every store in memory that was filled by calls. -/
structure Sound (store : Volatile) : Prop where
  consistent : store.directory.Consistent
  kept : store.mailbox.WellKept

/-- An empty store in memory is sound. -/
theorem sound_empty : empty.Sound :=
  ⟨Directory.consistent_empty, Mailbox.wellKept_empty⟩

/-- A question to a store in memory is answered from its directory and its mailbox, and changes
nothing. -/
theorem run_question (question : Question) (store : Volatile) :
    question.perform.run store
      = ⟨.ok (question.lookUp store.directory store.mailbox), store, []⟩ := by
  cases question <;> rfl

/-- What a call leaves of a sound store in memory. -/
structure Advance (store : Volatile) (now : Timestamp) (call : StoreCall) (answer : StoreAnswer)
    (store' : Volatile) : Prop where
  sound : store'.Sound
  follows : Follows store.contents store.mailbox.nextId now call answer store'.contents
    store'.mailbox.nextId

variable {store : Volatile} (sound : store.Sound) (now : Timestamp)

include sound

/-- A question to a store in memory advances it as it should. -/
theorem Sound.ask (question : Question) :
    store.Advance now (.ask question) (question.perform.run store).result
      (question.perform.run store).state := by
  rw [run_question]
  refine ⟨sound, congrArg Except.ok (Question.lookUp_eq sound.consistent _ _), rfl, ?_⟩
  cases question <;> rfl

/-- Taking in a client advances a store in memory as it should. -/
theorem Sound.insertClient (id : ClientId) (name : String) (key : Bytes) :
    store.Advance now (.insertClient id name key)
      (((insertClient id name key now).run store).result.map .truth)
      ((insertClient id name key now).run store).state := by
  have answered := Contents.answer_insertClient sound.consistent store.mailbox
    store.mailbox.nextId id name key now
  simp only [Volatile.insertClient, Action.run_bind, Action.run_look, Action.run_ofExcept]
  cases inserted : store.directory.insert? id name key now with
  | error e =>
    rw [inserted] at answered
    exact ⟨sound, answered.symm, rfl, rfl⟩
  | ok directory? =>
    rw [inserted] at answered
    cases directory? with
    | none => exact ⟨sound, answered.symm, rfl, rfl⟩
    | some directory =>
      obtain ⟨fresh, rfl⟩ := sound.consistent.insert?_eq_some inserted
      refine ⟨⟨sound.consistent.restore fresh, sound.kept⟩, answered.symm, ?_, rfl⟩
      show Contents.mk (store.directory.restore _).sorted _ = _
      rw [sound.consistent.sorted_restore fresh]
      rfl

/-- Noting that a client was seen advances a store in memory as it should. -/
theorem Sound.updateLastSeen (id : ClientId) :
    store.Advance now (.updateLastSeen id)
      (((updateLastSeen id now).run store).result.map .truth)
      ((updateLastSeen id now).run store).state := by
  have answered := Contents.answer_updateLastSeen sound.consistent store.mailbox
    store.mailbox.nextId id now
  simp only [Volatile.updateLastSeen, Action.run_bind, Action.run_look]
  cases found : store.directory.see? id now with
  | none =>
    rw [found] at answered
    exact ⟨sound, answered.symm, rfl, rfl⟩
  | some seen =>
    obtain ⟨before, directory⟩ := seen
    rw [found] at answered
    refine ⟨⟨(sound.consistent.see found).2.2, sound.kept⟩, answered.symm, ?_, rfl⟩
    show Contents.mk directory.sorted _ = _
    rw [sound.consistent.sorted_see found]
    rfl

/-- Taking in a message advances a store in memory as it should. -/
theorem Sound.insertMessage (target sender : ClientId) (type : MessageType) (content : Bytes) :
    store.Advance now (.insertMessage target sender type content)
      (((insertMessage target sender type content).run store).result.map .number)
      ((insertMessage target sender type content).run store).state := by
  simp only [Volatile.insertMessage, Action.run_bind, Action.run_look, Action.run_ofExcept]
  by_cases room : store.mailbox.nextId = Mailbox.lastId
  · have none : store.mailbox.allocate = .error .idsExhausted := if_pos room
    rw [none]
    exact ⟨sound, (if_pos room).symm, rfl, rfl⟩
  · have next : store.mailbox.allocate
        = .ok (store.mailbox.nextId, { store.mailbox with nextId := store.mailbox.nextId + 1 }) :=
      if_neg room
    simp only [next]
    exact ⟨⟨sound.consistent, sound.kept.take room rfl⟩, (if_neg room).symm, rfl, rfl⟩

/-- Removing a message advances a store in memory as it should. -/
theorem Sound.deleteMessage (id : UInt32) :
    store.Advance now (.deleteMessage id) (((deleteMessage id).run store).result.map .truth)
      ((deleteMessage id).run store).state := by
  have answered := Contents.answer_deleteMessage store.directory sound.kept
    store.mailbox.nextId id
  refine ⟨⟨sound.consistent, sound.kept.forget id⟩, answered.symm, ?_, Mailbox.nextId_forget _ _⟩
  show Contents.mk _ (store.mailbox.forget id).messages = Contents.after now _
    (.ok (.truth (store.mailbox.contains id))) _
  cases present : store.mailbox.contains id with
  | false =>
    rw [Mailbox.forget_of_not_contains present]
    rfl
  | true =>
    rw [sound.kept.messages_forget]
    rfl

/-- A store in memory goes by its contents. -/
theorem Sound.perform (call : StoreCall) :
    store.Advance now call ((call.perform now).run store).result
      ((call.perform now).run store).state := by
  cases call with
  | ask question => exact sound.ask now question
  | insertClient id name key =>
    rw [StoreCall.perform, Action.run_bind_pure]
    exact sound.insertClient now id name key
  | updateLastSeen id =>
    rw [StoreCall.perform, Action.run_bind_pure]
    exact sound.updateLastSeen now id
  | insertMessage target sender type content =>
    rw [StoreCall.perform, Action.run_bind_pure]
    exact sound.insertMessage now target sender type content
  | deleteMessage id =>
    rw [StoreCall.perform, Action.run_bind_pure]
    exact sound.deleteMessage now id

end Volatile

/-! ## In files -/

/-- The record of a message fits its length field. Only the messages of calls that insert one, and
get a number, have a record. -/
def StoreCall.Fits (next : UInt32) : StoreCall → Prop
  | .insertMessage target sender type content =>
    next ≠ Mailbox.lastId →
      (JournalEntry.inserted ⟨next, target, sender, type, content⟩).body.length < 4294967296
  | _ => True

namespace Durable

/-- No failure is planned in the folder of a store. -/
structure Quiet (store : Durable) : Prop where
  snapshots : store.folder.snapshotFaults = []
  records : store.folder.rooms = []

/-- What a call leaves of a store in files where nothing fails. -/
structure PlainAdvance (store : Durable) (now : Timestamp) (call : StoreCall)
    (answer : StoreAnswer) (store' : Durable) : Prop where
  sound : store'.Sound store'.mailbox.nextId
  quiet : store'.Quiet
  follows : Follows store.contents store.mailbox.nextId now call answer store'.contents
    store'.mailbox.nextId

/-- The record of a deletion always fits. -/
theorem exists_encode_deleted (id : UInt32) :
    ∃ bytes, (JournalEntry.deleted id).encode = .ok bytes := by
  apply JournalEntry.exists_encode_of_length
  simp [JournalEntry.body]

/-- Where no failure is planned, no record fails that can be written. -/
theorem Quiet.no_fault {store store' : Durable} (quiet : store.Quiet) {entry : JournalEntry}
    {e : StoreError} (writable : ∃ bytes, entry.encode = .ok bytes) :
    ¬ RecordFault entry store e store' := by
  intro fault
  cases fault with
  | tooLarge e refused =>
    obtain ⟨bytes, encoded⟩ := writable
    rw [encoded] at refused
    cases refused
  | noRoom bytes room rooms encoded planned short =>
    rw [quiet.records] at planned
    cases planned

/-- A store in files goes by its contents where nothing fails. -/
theorem Sound.perform {store : Durable} (sound : store.Sound store.mailbox.nextId)
    (quiet : store.Quiet) (now : Timestamp) (call : StoreCall)
    (fits : call.Fits store.mailbox.nextId) :
    store.PlainAdvance now call ((call.perform now).run store).result
      ((call.perform now).run store).state := by
  have effect := effect_perform now call store
  obtain ⟨advance, -⟩ := sound.effect effect
  revert effect advance
  generalize ((call.perform now).run store).result = answer
  generalize ((call.perform now).run store).state = store'
  intro effect advance
  have noFault : store.folder.snapshotFaults.head? ≠ some true := by simp [quiet.snapshots]
  -- it remains to see that the number in memory is the one in the folder, and the answer
  suffices h : answer = store.contents.answer store.mailbox.nextId call ∧
      store'.mailbox.nextId = numberAfter store.mailbox.nextId answer ∧ store'.Quiet by
    obtain ⟨answered, next, quiet'⟩ := h
    exact ⟨next ▸ advance.sound, quiet', answered, advance.contents, next⟩
  cases effect with
  | asked question =>
    refine ⟨congrArg Except.ok (Question.lookUp_eq sound.consistent _ _), ?_, quiet⟩
    cases question <;> rfl
  | refused id name key e h =>
    rw [contents, Contents.answer_insertClient sound.consistent _ _ id name key now, h]
    exact ⟨rfl, rfl, quiet⟩
  | occupied id name key h =>
    rw [contents, Contents.answer_insertClient sound.consistent _ _ id name key now, h]
    exact ⟨rfl, rfl, quiet⟩
  | registered id name key directory h =>
    rw [contents, Contents.answer_insertClient sound.consistent _ _ id name key now, h]
    refine ⟨rfl, rfl, ?_, quiet.records⟩
    exact congrArg List.tail quiet.snapshots
  | unknown id h =>
    rw [contents, Contents.answer_updateLastSeen sound.consistent _ _ id now, h]
    exact ⟨rfl, rfl, quiet⟩
  | seen id before directory h =>
    rw [contents, Contents.answer_updateLastSeen sound.consistent _ _ id now, h]
    refine ⟨rfl, rfl, ?_, quiet.records⟩
    exact congrArg List.tail quiet.snapshots
  | unregistered _ _ _ fault | unseen _ fault => exact absurd fault noFault
  | exhausted target sender type content h => exact ⟨(if_pos h).symm, rfl, quiet⟩
  | wasted target sender type content e _ room fault =>
    have writable := JournalEntry.exists_encode_of_length (fits room)
    have quiet' : store.allocated.Quiet := ⟨quiet.snapshots, quiet.records⟩
    exact absurd fault (quiet'.no_fault writable)
  | taken target sender type content bytes room encoded =>
    refine ⟨(if_neg room).symm, rfl, quiet.snapshots, ?_⟩
    exact congrArg List.tail quiet.records
  | absent id h =>
    rw [contents, Contents.answer_deleteMessage _ sound.kept, h]
    exact ⟨rfl, rfl, quiet⟩
  | unremoved id e _ fault => exact absurd fault (quiet.no_fault (exists_encode_deleted id))
  | removed id bytes h encoded =>
    rw [contents, Contents.answer_deleteMessage _ sound.kept, h]
    refine ⟨rfl, Mailbox.nextId_forget _ _, quiet.snapshots, ?_⟩
    exact congrArg List.tail quiet.records

end Durable

end MessageRelay.Store
