import MessageRelay.Proofs.Store.PlainCalls

/-!
# A store in files answers as one in memory

The same calls are made to a store in files, which is closed and opened again at any points, and to
a store in memory, which is not. Both go by their contents, and opening a store again leaves its
contents and its next number. So all answers are the same but for the moments at which clients were
last seen, which the two stores read from their own clocks.
-/

set_option autoImplicit false

namespace MessageRelay.Store

open Protocol (ClientId MessageType)

/-! ## Moments aside -/

/-- The client as if it was last seen at a moment. -/
def ClientRecord.stamped (moment : Timestamp) (record : ClientRecord) : ClientRecord :=
  { record with lastSeen := moment }

/-- The reply as if all clients in it were last seen at a moment. -/
def StoreReply.stamped (moment : Timestamp) : StoreReply → StoreReply
  | .clients records => .clients (records.map (ClientRecord.stamped moment))
  | reply => reply

/-- The answer as if all clients in it were last seen at a moment. -/
def stampedAnswer (moment : Timestamp) (answer : StoreAnswer) : StoreAnswer :=
  answer.map (StoreReply.stamped moment)

namespace Contents

/-- The contents as if all clients were last seen at a moment. -/
def stamped (moment : Timestamp) (contents : Contents) : Contents :=
  { contents with clients := contents.clients.map (ClientRecord.stamped moment) }

variable (moment : Timestamp) (contents : Contents)

/-- Whether an identifier is taken does not depend on when clients were seen. -/
theorem any_id_stamped (id : ClientId) :
    (contents.stamped moment).clients.any (fun record => record.id = id)
      = contents.clients.any fun record => record.id = id := by
  rw [stamped, List.any_map]
  rfl

/-- Whether a name is taken does not depend on when clients were seen. -/
theorem any_name_stamped (name : String) :
    (contents.stamped moment).clients.any (fun record => record.name = name)
      = contents.clients.any fun record => record.name = name := by
  rw [stamped, List.any_map]
  rfl

/-- The client under a name is the same, whenever clients were seen. -/
theorem find?_name_stamped (name : String) :
    (contents.stamped moment).clients.find? (fun record => record.name = name)
      = (contents.clients.find? fun record => record.name = name).map
          (ClientRecord.stamped moment) := by
  rw [stamped, List.find?_map]
  rfl

/-- The reply to a question depends on when clients were seen only in what it states of that. -/
theorem reply_stamped (question : Question) :
    (contents.stamped moment).reply question = (contents.reply question).stamped moment := by
  cases question with
  | hasId id => exact congrArg StoreReply.truth (any_id_stamped moment contents id)
  | hasName name => exact congrArg StoreReply.truth (any_name_stamped moment contents name)
  | publicKey name =>
    rw [reply, find?_name_stamped, Option.map_map]
    rfl
  | idByName name =>
    rw [reply, find?_name_stamped, Option.map_map]
    rfl
  | clients | unread => rfl

/-- The answer to a call depends on when clients were seen only in what it states of that. -/
theorem answer_stamped (next : UInt32) (call : StoreCall) :
    (contents.stamped moment).answer next call = stampedAnswer moment (contents.answer next call) := by
  cases call with
  | ask question => exact congrArg Except.ok (reply_stamped moment contents question)
  | insertClient id name key =>
    simp only [answer, any_id_stamped, any_name_stamped, stampedAnswer]
    cases Directory.checkFields name key <;> rfl
  | updateLastSeen id =>
    simp only [answer, any_id_stamped]
    rfl
  | insertMessage target sender type content =>
    simp only [answer]
    split <;> rfl
  | deleteMessage id => rfl

/-- The order of clients does not depend on when they were seen. -/
theorem arrange_stamped (records : List ClientRecord) :
    (Directory.arrange records).map (ClientRecord.stamped moment)
      = Directory.arrange (records.map (ClientRecord.stamped moment)) := by
  apply List.map_mergeSort
  intro a _ b _
  rfl

/-- That a client was seen is not told from contents in which all were seen at one moment. -/
theorem seenAt_stamped (id : ClientId) (now : Timestamp) (records : List ClientRecord) :
    (records.map (Directory.seenAt id now)).map (ClientRecord.stamped moment)
      = (records.map (ClientRecord.stamped moment)).map (Directory.seenAt id moment) := by
  rw [List.map_map, List.map_map]
  apply List.map_congr_left
  intro record _
  by_cases own : record.id = id <;> simp [Directory.seenAt, ClientRecord.stamped, own]

/-- What a call leaves depends on its answer, moments aside. -/
theorem after_stamped (now : Timestamp) (call : StoreCall) (answer : StoreAnswer) :
    (contents.after now call answer).stamped moment
      = (contents.stamped moment).after moment call (stampedAnswer moment answer) := by
  have still : ∀ now' answer', contents.after now call answer = contents →
      (contents.stamped moment).after now' call answer' = contents.stamped moment →
      (contents.after now call answer).stamped moment
        = (contents.stamped moment).after now' call answer' := by
    intro now' answer' h h'
    rw [h, h']
  cases answer with
  | error e => cases call <;> exact still _ _ rfl rfl
  | ok reply =>
    cases call with
    | ask question => exact still _ _ rfl rfl
    | insertClient id name key =>
      cases reply with
      | truth value =>
        cases value with
        | false => exact still _ _ rfl rfl
        | true =>
          simp only [after, stampedAnswer, Except.map, StoreReply.stamped, stamped,
            arrange_stamped, List.map_append]
          rfl
      | clients | key | id | number | messages => exact still _ _ rfl rfl
    | updateLastSeen id =>
      cases reply with
      | truth value =>
        cases value with
        | false => exact still _ _ rfl rfl
        | true =>
          simp only [after, stampedAnswer, Except.map, StoreReply.stamped, stamped,
            seenAt_stamped]
      | clients | key | id | number | messages => exact still _ _ rfl rfl
    | insertMessage target sender type content => cases reply <;> rfl
    | deleteMessage id =>
      cases reply with
      | truth value => cases value <;> rfl
      | clients | key | id | number | messages => rfl

end Contents

/-- The next number does not depend on when clients were seen. -/
theorem numberAfter_stamped (moment : Timestamp) (next : UInt32) (answer : StoreAnswer) :
    numberAfter next (stampedAnswer moment answer) = numberAfter next answer := by
  cases answer with
  | error e => rfl
  | ok reply => cases reply <;> rfl

/-! ## Runs -/

/-- A step of a run of both stores. -/
inductive RunStep where
  /-- A call is made to both stores, at moments by their own clocks. -/
  | call (call : StoreCall) (inFiles inMemory : Timestamp)
  /-- The store in files is closed and opened again. -/
  | restart

/-- The answers of a store in memory. -/
def Volatile.answers : List RunStep → Volatile → List StoreAnswer
  | [], _ => []
  | .call call _ now :: steps, store =>
    let out := (call.perform now).run store
    out.result :: answers steps out.state
  | .restart :: steps, store => answers steps store

/-- The answers of a store in files, unless it does not open again. -/
def Durable.answers : List RunStep → Durable → Except StoreError (List StoreAnswer)
  | [], _ => .ok []
  | .call call now _ :: steps, store =>
    let out := (call.perform now).run store
    (answers steps out.state).map fun later => out.result :: later
  | .restart :: steps, store => (openFolder.run store.folder).result.bind (answers steps)

/-- The records of all messages in a run fit their length fields. -/
def AllFit : List RunStep → Volatile → Prop
  | [], _ => True
  | .call call _ now :: steps, store =>
    call.Fits store.mailbox.nextId ∧ AllFit steps ((call.perform now).run store).state
  | .restart :: steps, store => AllFit steps store

/-- A store in files and one in memory that have the same contents, moments aside. -/
structure Twins (files : Durable) (memory : Volatile) : Prop where
  inFiles : files.Sound files.mailbox.nextId
  quiet : files.Quiet
  inMemory : memory.Sound
  contents : ∀ moment, files.contents.stamped moment = memory.contents.stamped moment
  next : files.mailbox.nextId = memory.mailbox.nextId

/-- Twins answer every call alike and stay twins. -/
theorem Twins.call {files : Durable} {memory : Volatile} (twins : Twins files memory)
    (call : StoreCall) (now now' : Timestamp) (fits : call.Fits memory.mailbox.nextId) :
    (∀ moment, stampedAnswer moment ((call.perform now).run files).result
        = stampedAnswer moment ((call.perform now').run memory).result) ∧
      Twins ((call.perform now).run files).state ((call.perform now').run memory).state := by
  have inFiles := twins.inFiles.perform twins.quiet now call (twins.next ▸ fits)
  have inMemory := twins.inMemory.perform now' call
  revert inFiles inMemory
  generalize ((call.perform now).run files).result = answer
  generalize ((call.perform now).run files).state = files'
  generalize ((call.perform now').run memory).result = answer'
  generalize ((call.perform now').run memory).state = memory'
  intro inFiles inMemory
  have answers : ∀ moment, stampedAnswer moment answer = stampedAnswer moment answer' := by
    intro moment
    rw [inFiles.follows.answered, inMemory.follows.answered, ← Contents.answer_stamped,
      ← Contents.answer_stamped, twins.contents, twins.next]
  refine ⟨answers, inFiles.sound, inFiles.quiet, inMemory.sound, ?_, ?_⟩
  · intro moment
    rw [inFiles.follows.left, inMemory.follows.left, Contents.after_stamped,
      Contents.after_stamped, twins.contents, answers]
  · rw [inFiles.follows.numbered, inMemory.follows.numbered, twins.next,
      ← numberAfter_stamped now, answers, numberAfter_stamped]

/-- Twins stay twins when the files are opened again. -/
theorem Twins.restart {files : Durable} {memory : Volatile} (twins : Twins files memory) :
    ∃ files', (Durable.openFolder.run files.folder).result = .ok files' ∧ Twins files' memory := by
  obtain ⟨files', opened, -, sound, same, next, log, folder⟩ :=
    Durable.openFolder_of_holds twins.inFiles.holds
  refine ⟨files', opened, next ▸ sound, ?_, twins.inMemory, ?_, next.trans twins.next⟩
  · constructor
    · rw [folder]
      exact twins.quiet.snapshots
    · rw [folder]
      exact twins.quiet.records
  · rw [same]
    exact twins.contents

/-- Twins give the same answers, however often the store in files is opened again. -/
theorem Twins.answers {files : Durable} {memory : Volatile} (twins : Twins files memory)
    (steps : List RunStep) (fit : AllFit steps memory) :
    ∃ answers, files.answers steps = .ok answers ∧
      ∀ moment, answers.map (stampedAnswer moment)
        = (memory.answers steps).map (stampedAnswer moment) := by
  induction steps generalizing files memory with
  | nil => exact ⟨[], rfl, fun _ => rfl⟩
  | cons step steps ih =>
    cases step with
    | call call now now' =>
      obtain ⟨first, twins'⟩ := twins.call call now now' fit.1
      obtain ⟨later, answered, same⟩ := ih twins' fit.2
      refine ⟨_, by rw [Durable.answers, answered]; rfl, ?_⟩
      intro moment
      rw [Volatile.answers, List.map_cons, List.map_cons, first, same]
    | restart =>
      obtain ⟨files', opened, twins'⟩ := twins.restart
      obtain ⟨later, answered, same⟩ := ih twins' fit
      refine ⟨later, ?_, same⟩
      rw [Durable.answers, opened]
      exact answered

/-- A store in files that starts from a folder without files, and in which nothing fails, opens
whenever it is closed and answers as a store in memory does. -/
theorem answers_in_files (path : String) (steps : List RunStep) (fit : AllFit steps .empty) :
    ∃ store answers, (Durable.openFolder.run (.empty path)).result = .ok store ∧
      store.answers steps = .ok answers ∧
      ∀ moment, answers.map (stampedAnswer moment)
        = (Volatile.empty.answers steps).map (stampedAnswer moment) := by
  have nothing : (DataFolder.empty path).Holds .empty 1 := DataFolder.holds_nothing rfl rfl
  obtain ⟨store, opened, -, sound, contents, next, log, folder⟩ :=
    Durable.openFolder_of_holds nothing
  have twins : Twins store .empty := by
    refine ⟨next ▸ sound, ?_, Volatile.sound_empty, ?_, next⟩
    · constructor <;> rw [folder] <;> rfl
    · rw [contents]
      intro moment
      have sorted : Directory.empty.sorted = [] := by simp [Directory.sorted, Directory.empty]
      rw [Volatile.contents, Contents.of, Volatile.empty, sorted]
      rfl
  obtain ⟨answers, answered, same⟩ := twins.answers steps fit
  exact ⟨store, answers, opened, answered, same⟩

/-- Two messages for a client, the first of which is removed, with a restart after each change. -/
def twoMessages : List RunStep :=
  let noon : Timestamp := ⟨⟨2026, 5, 1, by decide⟩, 12, 0, 0, 0, by decide⟩
  [.call (.insertMessage (.ofBytes [1]) (.ofBytes [2]) .textMessage [42]) noon noon, .restart,
    .call (.insertMessage (.ofBytes [1]) (.ofBytes [2]) .textMessage [43]) noon noon, .restart,
    .call (.deleteMessage 1) noon noon, .restart,
    .call (.ask (.unread (.ofBytes [1]))) noon noon]

/-- Two messages are taken in, the first one is removed, and the second one waits. -/
theorem answers_in_files_twoMessages :
    AllFit twoMessages .empty ∧
      ∃ store answers, (Durable.openFolder.run (.empty "data")).result = .ok store ∧
        store.answers twoMessages = .ok answers ∧
        ∀ moment, answers.map (stampedAnswer moment)
          = [.ok (.number 1), .ok (.number 2), .ok (.truth true),
              .ok (.messages [⟨2, .ofBytes [1], .ofBytes [2], .textMessage, [43]⟩])] := by
  have fit : AllFit twoMessages .empty :=
    ⟨fun _ => by decide +kernel, fun _ => by decide +kernel, trivial, trivial, trivial⟩
  obtain ⟨store, answers, opened, answered, same⟩ := answers_in_files "data" twoMessages fit
  refine ⟨fit, store, answers, opened, answered, ?_⟩
  intro moment
  rw [same]
  rfl

end MessageRelay.Store
