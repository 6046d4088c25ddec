import MessageRelay.Proofs.Store.Recovery

/-!
# Crashes

The life of a store in files is a sequence of episodes: calls, some of which a crash interrupts,
closings and openings, which a crash may interrupt as well. A crash leaves the old snapshot or the
new one, and any front of the record that was being written; bytes are kept in the order in which
they were written, and a file that takes the place of another does so at once.

Beside the store runs a ledger that knows only what was answered: the contents after all calls that
were answered, the contents with the effect of the call that the last crash interrupted, and the
numbers that were given to messages. In every life that starts from a folder without files, whatever
fails in it, the store shows what the ledger says, a folder can always be opened, and no number is
given twice.
-/

set_option autoImplicit false

namespace MessageRelay.Store

namespace DataFolder

/-- What a crash leaves of a folder while its files become those of `folder'`: the new snapshot if
it already took the place of the old one, and the log with the first bytes of what it was to grow
by. -/
def interrupted (renamed : Bool) (written : Nat) (folder folder' : DataFolder) : DataFolder :=
  { folder with
    snapshot? := if renamed then folder'.snapshot? else folder.snapshot?
    journal? := folder'.journal?.map fun log =>
      log.take ((folder.journal?.getD []).length + written) }

/-- What a folder holds depends on its files only. -/
theorem Holds.congr {folder folder' : DataFolder} {contents : Contents} {next : UInt32}
    (h : folder.Holds contents next) (snapshot : folder'.snapshot? = folder.snapshot?)
    (journal : folder'.journal? = folder.journal?) : folder'.Holds contents next where
  clients := by
    rw [HoldsClients, snapshot]
    exact h.clients
  messages := by
    rw [HoldsMessages, journal]
    exact h.messages

end DataFolder

namespace Durable

/-- The store in a folder where nothing fails. -/
def undisturbed (store : Durable) : Durable :=
  { store with folder := { store.folder with snapshotFaults := [], rooms := [] } }

/-- A sound store stays sound in a folder where nothing fails. -/
theorem Sound.undisturbed {store : Durable} {next : UInt32} (sound : store.Sound next) :
    store.undisturbed.Sound next :=
  ⟨sound.consistent, sound.kept, sound.snapshot, sound.journal, sound.bound⟩

/-- A log that was cut off within its last record holds what it held without it. -/
theorem Sound.holds_torn {store : Durable} {next : UInt32} (sound : store.Sound next)
    {entry : JournalEntry} {bytes : Bytes} (encoded : entry.encode = .ok bytes) {written : Nat}
    (short : written < bytes.length) {folder : DataFolder}
    (snapshot : folder.snapshot? = store.folder.snapshot?)
    (journal : folder.journal? = some (store.folder.journal?.getD [] ++ bytes.take written)) :
    folder.Holds store.contents next where
  clients := by
    rw [DataFolder.HoldsClients, snapshot]
    exact sound.holds.clients
  messages := by
    obtain ⟨entries, log, present, encodedLog, kept, messages, nextId⟩ := sound.journal
    obtain ⟨found, harmless⟩ := Journal.scan_torn encodedLog encoded short
    rw [present, Option.getD_some] at journal
    refine ⟨entries, .inr ⟨_, journal, found, harmless⟩, ?_, kept, messages.symm, nextId.symm⟩
    intro entry he
    exact Journal.exists_encode_of_mem encodedLog he

/-- A crash in the middle of a call leaves what was there before it or what is there after it. -/
theorem Advance.holds_interrupted {store store' : Durable} {next next' : UInt32}
    {contents : Contents} (sound : store.Sound next)
    (advance : store.Advance next contents store' next') (renamed : Bool) (written : Nat) :
    (store.folder.interrupted renamed written store'.folder).Holds store.contents next ∨
      (store.folder.interrupted renamed written store'.folder).Holds contents next' := by
  have before := sound.holds
  have after := advance.sound.holds
  rw [advance.contents] at after
  cases advance.files with
  | snapshot journal =>
    -- the log is as it was, so the snapshot decides
    have whole : (store.folder.interrupted renamed written store'.folder).journal?
        = store.folder.journal? := by
      simp only [DataFolder.interrupted, journal]
      cases store.folder.journal? with
      | none => rfl
      | some log =>
        rw [Option.map_some, Option.getD_some, List.take_of_length_le (Nat.le_add_right _ _)]
    cases renamed with
    | true => exact .inr (after.congr rfl (whole.trans journal.symm))
    | false => exact .inl (before.congr rfl whole)
  | record entry bytes encoded snapshot journal =>
    have same : (store.folder.interrupted renamed written store'.folder).snapshot?
        = store.folder.snapshot? := by
      cases renamed with
      | true => exact snapshot
      | false => rfl
    have grown : (store.folder.interrupted renamed written store'.folder).journal?
        = some (store.folder.journal?.getD [] ++ bytes.take written) := by
      rw [DataFolder.interrupted, journal, Option.map_some, List.take_length_add_append]
    by_cases short : written < bytes.length
    · exact .inl (sound.holds_torn encoded short same grown)
    · rw [List.take_of_length_le (Nat.le_of_not_lt short)] at grown
      exact .inr (after.congr (same.trans snapshot.symm) (grown.trans journal.symm))

end Durable

/-! ## Lives -/

/-- Where the data of a store are. -/
inductive Site where
  | running (store : Durable)
  | down (folder : DataFolder)

/-- Something that happens to a store. -/
inductive Episode where
  /-- A call is made and answered. -/
  | call (call : StoreCall) (now : Timestamp)
  /-- A crash interrupts a call: its snapshot was renamed or not, and this many bytes of its record
  were written. -/
  | crash (call : StoreCall) (now : Timestamp) (renamed : Bool) (written : Nat)
  /-- The relay goes down between calls. -/
  | halt
  /-- The store is opened. -/
  | reopen
  /-- A crash interrupts the opening: the compacted log was renamed or not. -/
  | crashInReopen (renamed : Bool)

/-- A store and its ledger. -/
structure Life where
  site : Site
  /-- The contents after all calls that were answered. -/
  settled : Contents
  /-- The same with the effect of the call that the last crash interrupted. -/
  attempted : Contents
  /-- The numbers that were given to messages, in the order in which they were given. -/
  issued : List UInt32

namespace Life

/-- The start of a life. -/
def begin (folder : DataFolder) : Life :=
  ⟨.down folder, .empty, .empty, []⟩

/-- A life after an episode. What cannot happen where the data are changes nothing. Of an
interrupted call nothing is known but what it would have done had it come to its end. -/
def step (life : Life) (episode : Episode) : Life :=
  match life.site, episode with
  | .running store, .call call now =>
    let out := (call.perform now).run store
    let settled := life.settled.after now call out.result
    { site := .running out.state
      settled
      attempted := settled
      issued := life.issued ++ numbersOf out.result }
  | .running store, .crash call now renamed written =>
    let out := (call.perform now).run store.undisturbed
    { life with
      site := .down (store.folder.interrupted renamed written out.state.folder)
      attempted := life.settled.after now call out.result }
  | .running store, .halt => { life with site := .down store.folder }
  | .down folder, .reopen =>
    let out := Durable.openFolder.run folder
    match out.result with
    | .ok store =>
      -- whether the interrupted call took effect shows now, and does not change any more
      let settled := if store.contents = life.attempted then life.attempted else life.settled
      { life with site := .running store, settled, attempted := settled }
    | .error _ => { life with site := .down out.state }
  | .down folder, .crashInReopen renamed =>
    { life with
      site := .down (if renamed then (Durable.openFolder.run folder).state else folder) }
  | _, _ => life

/-- A life after a sequence of episodes. -/
def live (life : Life) (episodes : List Episode) : Life :=
  episodes.foldl step life

end Life

/-- The answers of a store to all questions are those that contents give. -/
def Durable.Shows (store : Durable) (contents : Contents) : Prop :=
  ∀ question : Question, (question.perform.run store).result = .ok (contents.reply question)

/-- A store that runs shows what was answered. A store that is down opens, and shows what was
answered, possibly with the effect of the call that was interrupted. -/
def Life.Kept (life : Life) : Prop :=
  match life.site with
  | .running store => store.Shows life.settled
  | .down folder => ∃ store : Durable, (Durable.openFolder.run folder).result = .ok store ∧
      (store.Shows life.settled ∨ store.Shows life.attempted)

/-- A sound store shows the contents that it has. -/
theorem Durable.Sound.shows {store : Durable} {next : UInt32} (sound : store.Sound next) :
    store.Shows store.contents := by
  intro question
  rw [run_question, Question.lookUp_eq sound.consistent, Durable.contents]

namespace Life

/-- What holds at every point of a life: the data are sound or can be recovered, as the ledger says,
and no number that comes next was given already. -/
structure Invariant (life : Life) : Prop where
  ordered : life.issued.Pairwise (· < ·)
  data : match life.site with
    | .running store => store.contents = life.settled ∧
        ∃ next, store.Sound next ∧ ∀ id ∈ life.issued, id < next
    | .down folder => ∃ contents next, (contents = life.settled ∨ contents = life.attempted) ∧
        folder.Holds contents next ∧ ∀ id ∈ life.issued, id < next

/-- A call keeps the invariant. -/
theorem invariant_call {life : Life} (h : life.Invariant) {store : Durable}
    (site : life.site = .running store) (call : StoreCall) (now : Timestamp) :
    (life.step (.call call now)).Invariant := by
  obtain ⟨ordered, data⟩ := h
  rw [site] at data
  obtain ⟨same, next, sound, issued⟩ := data
  obtain ⟨advance, numbers⟩ := sound.effect (Durable.effect_perform now call store)
  simp only [step, site]
  rw [same] at advance
  generalize ((call.perform now).run store).result = answer at advance numbers ⊢
  generalize ((call.perform now).run store).state = store' at advance ⊢
  constructor
  · exact pairwise_append_numbersOf ordered issued fun id hid => (numbers id hid).1
  · refine ⟨advance.contents, _, advance.sound, ?_⟩
    intro id hid
    obtain hid | hid := List.mem_append.1 hid
    · exact UInt32.lt_of_lt_of_le (issued id hid) advance.next
    · exact (numbers id hid).2

/-- A crash within a call keeps the invariant, wherever the write was cut. -/
theorem invariant_crash {life : Life} (h : life.Invariant) {store : Durable}
    (site : life.site = .running store) (call : StoreCall) (now : Timestamp) (renamed : Bool)
    (written : Nat) : (life.step (.crash call now renamed written)).Invariant := by
  obtain ⟨ordered, data⟩ := h
  rw [site] at data
  obtain ⟨same, next, sound, issued⟩ := data
  obtain ⟨advance, -⟩ :=
    sound.undisturbed.effect (Durable.effect_perform now call store.undisturbed)
  have left := advance.holds_interrupted sound.undisturbed renamed written
  simp only [step, site]
  refine ⟨ordered, ?_⟩
  have settled : store.undisturbed.contents = life.settled := same
  rw [settled] at left
  obtain left | left := left
  · exact ⟨_, next, .inl rfl, left.congr rfl rfl, issued⟩
  · refine ⟨_, _, .inr rfl, left.congr rfl rfl, ?_⟩
    intro id hid
    exact UInt32.lt_of_lt_of_le (issued id hid) advance.next

/-- An end between two calls keeps the invariant. -/
theorem invariant_halt {life : Life} (h : life.Invariant) {store : Durable}
    (site : life.site = .running store) : (life.step .halt).Invariant := by
  obtain ⟨ordered, data⟩ := h
  rw [site] at data
  obtain ⟨same, next, sound, issued⟩ := data
  simp only [step, site]
  exact ⟨ordered, store.contents, next, .inl same, sound.holds, issued⟩

/-- Opening the folder again keeps the invariant. -/
theorem invariant_reopen {life : Life} (h : life.Invariant) {folder : DataFolder}
    (site : life.site = .down folder) : (life.step .reopen).Invariant := by
  obtain ⟨ordered, data⟩ := h
  rw [site] at data
  obtain ⟨contents, next, known, holds, issued⟩ := data
  obtain ⟨store, opened, -, sound, same, -⟩ := Durable.openFolder_of_holds holds
  simp only [step, site, opened]
  refine ⟨ordered, ?_, next, sound, issued⟩
  show store.contents = if store.contents = life.attempted then life.attempted else life.settled
  split
  · rename_i taken
    exact taken
  · rename_i untaken
    obtain rfl | rfl := known
    · exact same
    · exact absurd same untaken

/-- A crash while the folder is opened again keeps the invariant. -/
theorem invariant_crashInReopen {life : Life} (h : life.Invariant) {folder : DataFolder}
    (site : life.site = .down folder) (renamed : Bool) :
    (life.step (.crashInReopen renamed)).Invariant := by
  obtain ⟨ordered, data⟩ := h
  rw [site] at data
  obtain ⟨contents, next, known, holds, issued⟩ := data
  obtain ⟨store, -, left, sound, same, -⟩ := Durable.openFolder_of_holds holds
  simp only [step, site, left]
  refine ⟨ordered, contents, next, known, ?_, issued⟩
  cases renamed with
  | true =>
    rw [← same]
    exact sound.holds
  | false => exact holds

/-- Every episode keeps the invariant. -/
theorem invariant_step {life : Life} (h : life.Invariant) (episode : Episode) :
    (life.step episode).Invariant := by
  cases site : life.site with
  | running store =>
    cases episode with
    | call call now => exact invariant_call h site call now
    | crash call now renamed written => exact invariant_crash h site call now renamed written
    | halt => exact invariant_halt h site
    | reopen | crashInReopen =>
      simp only [step, site]
      exact h
  | down folder =>
    cases episode with
    | reopen => exact invariant_reopen h site
    | crashInReopen renamed => exact invariant_crashInReopen h site renamed
    | call | crash | halt =>
      simp only [step, site]
      exact h

/-- The invariant holds over a whole life. -/
theorem invariant_live {life : Life} (h : life.Invariant) (episodes : List Episode) :
    (life.live episodes).Invariant := by
  induction episodes generalizing life with
  | nil => exact h
  | cons episode episodes ih => exact ih (invariant_step h episode)

/-- A life on which the invariant holds has kept what it promised. -/
theorem Invariant.kept {life : Life} (h : life.Invariant) : life.Kept := by
  obtain ⟨-, data⟩ := h
  unfold Kept
  cases site : life.site with
  | running store =>
    rw [site] at data
    obtain ⟨same, next, sound, -⟩ := data
    simp only [← same]
    exact sound.shows
  | down folder =>
    rw [site] at data
    obtain ⟨contents, next, known, holds, -⟩ := data
    obtain ⟨store, opened, -, sound, same, -⟩ := Durable.openFolder_of_holds holds
    have shown := sound.shows
    rw [same] at shown
    refine ⟨store, opened, ?_⟩
    obtain rfl | rfl := known
    · exact .inl shown
    · exact .inr shown

/-- In every life that starts from a folder without files, whichever writes fail and wherever crashes
happen, the data are kept as the ledger says, and no number is given to a second message. -/
theorem live_kept (path : String) (snapshotFaults : List Bool) (rooms : List Nat)
    (episodes : List Episode) :
    ((begin ⟨path, none, none, snapshotFaults, rooms⟩).live episodes).Kept ∧
      ((begin ⟨path, none, none, snapshotFaults, rooms⟩).live episodes).issued.Pairwise
        (· < ·) := by
  have start : (begin ⟨path, none, none, snapshotFaults, rooms⟩).Invariant :=
    ⟨List.Pairwise.nil, .empty, 1, .inl rfl, DataFolder.holds_nothing rfl rfl, by simp [begin]⟩
  have h := invariant_live start episodes
  exact ⟨h.kept, h.ordered⟩

end Life

end MessageRelay.Store
