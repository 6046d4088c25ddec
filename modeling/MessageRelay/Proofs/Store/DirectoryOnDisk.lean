import MessageRelay.Proofs.Store.Roll

/-!
# The directory in memory and on disk

A directory may also be changed in memory first, written then, and put back if that fails. Putting
back what was taken in gives the very directory from before (`Consistent.remove_restore`,
`Consistent.see_back`), so that it makes no difference which of the two comes first
(`run_insertThenWrite`, `run_seeThenWrite`). Whatever fails, the names and the clients of a directory
belong together, the wire can carry every client, and the file of clients holds what is in memory
(`directory_matches_file`).
-/

set_option autoImplicit false

namespace MessageRelay

namespace Table

variable {κ α : Type} [DecidableEq κ]

/-- Taking out an entry that was just put at the end. -/
theorem erase_put {table : Table κ α} {key : κ} (value : α) (h : table.find? key = none) :
    (table.put key value).erase key = table := by
  have kept : table.filter (fun entry => entry.1 ≠ key) = table := by
    rw [List.filter_eq_self]
    intro entry he
    exact decide_eq_true ((find?_eq_none_iff table key).1 h entry he)
  rw [put_of_find?_eq_none value h, erase, List.filter_append, kept]
  simp

/-- The last value under a key is the one that counts. -/
theorem put_put (key : κ) (value value' : α) (table : Table κ α) :
    (table.put key value).put key value' = table.put key value' := by
  induction table with
  | nil => simp [put]
  | cons entry table ih =>
    obtain ⟨k, a⟩ := entry
    by_cases hk : k = key
    · simp [put, hk]
    · simp [put, hk, ih]

/-- Writing what is there already changes nothing. -/
theorem put_of_find?_eq_some {table : Table κ α} {key : κ} {value : α}
    (h : table.find? key = some value) : table.put key value = table := by
  induction table with
  | nil => cases h
  | cons entry table ih =>
    obtain ⟨k, a⟩ := entry
    rw [find?] at h
    split at h
    · rename_i hk
      cases h
      simp [put, hk]
    · rename_i hk
      simp [put, hk, ih h]

end Table

namespace Store

open Protocol (ClientId)

/-! ## Taking back -/

namespace Directory

/-- Taking out a client that was just taken in. -/
theorem Consistent.remove_restore {directory : Directory} (h : directory.Consistent)
    {record : ClientRecord} (fresh : Fresh record directory) :
    (directory.restore record).remove record.id = directory := by
  have newId : directory.records.find? record.id = none := by
    rw [Table.find?_eq_none_iff]
    intro entry he
    rw [← h.keyed entry he]
    exact fresh.id entry.2 (List.mem_map_of_mem he)
  have newName : directory.names.find? record.name = none := by
    rw [Option.eq_none_iff_forall_ne_some]
    intro id found
    obtain ⟨other, ho, named, -⟩ := (h.named record.name id).1 found
    exact fresh.name other ho named
  have found : (directory.restore record).records.find? record.id = some record := by
    simp [Directory.restore, Table.find?_put]
  have named : (directory.restore record).names.find? record.name = some record.id := by
    simp [Directory.restore, Table.find?_put]
  simp only [Directory.remove, found, named, if_true]
  simp only [Directory.restore, Table.erase_put _ newId, Table.erase_put _ newName]

/-- A directory without clients has no names either. -/
theorem Consistent.eq_empty_of_sorted {directory : Directory} (h : directory.Consistent)
    (nobody : directory.sorted = []) : directory = .empty := by
  have all : directory.all = [] := by
    have perm := perm_arrange directory.all
    rw [← sorted_eq_arrange, nobody] at perm
    exact perm.nil_eq.symm
  have records : directory.records = [] := List.map_eq_nil_iff.1 all
  have names : directory.names = [] := by
    rw [List.eq_nil_iff_forall_not_mem]
    rintro ⟨name, id⟩ listed
    cases found : directory.names.find? name with
    | none => exact (Table.find?_eq_none_iff _ _).1 found _ listed rfl
    | some other =>
      obtain ⟨record, hr, -⟩ := (h.named name other).1 found
      rw [all] at hr
      cases hr
  rw [empty, ← records, ← names]

/-- The wire can carry every client of a directory. -/
def Fits (directory : Directory) : Prop :=
  ∀ record ∈ directory.all, checkFields record.name record.publicKey = .ok ()

/-- Noting the moment from before again. -/
theorem see_back {directory directory' : Directory} {id : ClientId} {moment before : Timestamp}
    (hs : directory.see? id moment = some (before, directory')) :
    directory'.see? id before = some (moment, directory) := by
  unfold see? at hs
  rw [Option.map_eq_some_iff] at hs
  obtain ⟨record, found, same⟩ := hs
  cases same
  simp [see?, Table.find?_put, Table.put_put, Table.put_of_find?_eq_some found]

end Directory

namespace Durable

open Log (Notice)

/-- Writes the directory that memory holds. -/
def persist : Action Durable StoreError Unit := do
  let store ← Action.look
  onFolder (DataFolder.writeSnapshot (snapshotOf store.directory))

/-- Takes in a client, then writes the directory, and takes the client out again if that fails. -/
def insertThenWrite (id : ClientId) (name : String) (key : Bytes) (now : Timestamp) :
    Action Durable StoreError Bool := do
  let store ← Action.look
  let directory? ← Action.ofExcept (store.directory.insert? id name key now)
  Action.tell (store.directory.insertNotice id name)
  match directory? with
  | none => return false
  | some directory =>
    Action.replace { store with directory }
    match ← persist.attempt with
    | .ok () => return true
    | .error e =>
      Action.change fun store => { store with directory := store.directory.remove id }
      Action.tell (.warn
        s!"Registration of {Text.quoted name} not persisted, rolled back: {e.message}")
      Action.fail e

/-- Notes that a client was seen, then writes the directory, and notes the moment from before again
if that fails. -/
def seeThenWrite (id : ClientId) (now : Timestamp) : Action Durable StoreError Bool := do
  let store ← Action.look
  match store.directory.see? id now with
  | none => return false
  | some (before, directory) =>
    Action.replace { store with directory }
    match ← persist.attempt with
    | .ok () => return true
    | .error e =>
      Action.change fun store =>
        match store.directory.see? id before with
        | none => store
        | some (_, directory) => { store with directory }
      Action.fail e

/-- Writing the directory that memory holds is all that is left of taking it over. -/
theorem run_persist (directory : Directory) (store : Durable) :
    persist.run { store with directory }
      = ⟨((commit directory).run store).result,
          { ((commit directory).run store).state with directory },
          ((commit directory).run store).notices⟩ := by
  by_cases fault : store.folder.snapshotFaults.head? = some true
  · obtain ⟨faults, planned⟩ := List.head?_eq_some_iff.1 fault
    rw [run_commit_of_fault directory fault]
    simp [persist, onFolder, DataFolder.writeSnapshot, Action.run_bind, planned, spent]
  · rw [run_commit directory fault]
    cases planned : store.folder.snapshotFaults with
    | nil =>
      simp [persist, onFolder, DataFolder.writeSnapshot, Action.run_bind, planned, committed]
    | cons first faults =>
      cases first with
      | false =>
        simp [persist, onFolder, DataFolder.writeSnapshot, Action.run_bind, planned, committed]
      | true =>
        rw [planned] at fault
        exact absurd rfl fault

/-- What a failed registration leaves does not tell whether memory was changed for it. -/
theorem run_insertThenWrite {store : Durable} (consistent : store.directory.Consistent)
    (id : ClientId) (name : String) (key : Bytes) (now : Timestamp) :
    (insertThenWrite id name key now).run store = (insertClient id name key now).run store := by
  simp only [insertThenWrite, insertClient, Action.run_bind, Action.run_look, Action.run_ofExcept]
  cases inserted : store.directory.insert? id name key now with
  | error e => rfl
  | ok directory? =>
    cases directory? with
    | none => rfl
    | some directory =>
      obtain ⟨fresh, same⟩ := consistent.insert?_eq_some inserted
      have back : directory.remove id = store.directory := by
        rw [same]
        exact consistent.remove_restore fresh
      simp only [Action.run_bind, Action.run_tell, Action.run_replace, Action.run_attempt,
        run_persist]
      by_cases fault : store.folder.snapshotFaults.head? = some true
      · rw [run_commit_of_fault directory fault]
        simp [Action.run_bind, spent, back]
      · rw [run_commit directory fault]
        rfl

/-- Noting that a client was seen before the snapshot is written, and taking it back if that fails,
comes to the same as writing first. -/
theorem run_seeThenWrite (id : ClientId) (now : Timestamp) (store : Durable) :
    (seeThenWrite id now).run store = (updateLastSeen id now).run store := by
  simp only [seeThenWrite, updateLastSeen, Action.run_bind, Action.run_look]
  cases seen : store.directory.see? id now with
  | none => rfl
  | some found =>
    obtain ⟨before, directory⟩ := found
    have back := Directory.see_back seen
    simp only [Action.run_bind, Action.run_replace, Action.run_attempt, run_persist]
    by_cases fault : store.folder.snapshotFaults.head? = some true
    · rw [run_commit_of_fault directory fault]
      simp [Action.run_bind, spent, back]
    · rw [run_commit directory fault]
      rfl

end Durable

/-! ## Writing beside a file -/

/-- A step of putting a file in the place of another. -/
inductive WriteStage where
  /-- An empty file is created beside the other. -/
  | create
  /-- The content is written into it. -/
  | write
  /-- The content reaches the disk. -/
  | sync
  /-- The new file takes the place of the other. -/
  | rename
  deriving DecidableEq

/-- A file and the one beside it. -/
structure FilePair where
  file? : Option Bytes
  beside? : Option Bytes

/-- Puts a file in the place of another. The stage at which that fails may be planned, and how many
bytes a write that fails has written. -/
def FilePair.replaceFile (fault? : Option WriteStage) (written : Nat) (content : Bytes) :
    Action FilePair StoreError Unit := do
  let pass (stage : WriteStage) : Action FilePair StoreError Unit :=
    if fault? = some stage then Action.fail .fileAccess else pure ()
  pass .create
  Action.change fun files => { files with beside? := some (content.take written) }
  pass .write
  Action.change fun files => { files with beside? := some content }
  pass .sync
  pass .rename
  Action.change fun files => { file? := files.beside?, beside? := none }

/-- Wherever the writing of a snapshot fails, the snapshot is as it was; and it is the new one if
nothing fails. What is left beside it plays no part. -/
theorem run_replaceFile (fault? : Option WriteStage) (written : Nat) (content : Bytes)
    (beside? : Option Bytes) (folder : DataFolder) :
    let replaced := (FilePair.replaceFile fault? written content).run ⟨folder.snapshot?, beside?⟩
    let out := (DataFolder.writeSnapshot content).run
      { folder with snapshotFaults := fault?.isSome :: folder.snapshotFaults }
    out.result = replaced.result ∧
      out.state = { folder with snapshot? := replaced.state.file? } := by
  cases fault? with
  | none => exact ⟨rfl, rfl⟩
  | some stage => cases stage <;> exact ⟨rfl, rfl⟩

/-! ## Calls -/

namespace Durable

/-- Something that is done with a store in files. -/
inductive Usage where
  | call (call : StoreCall) (now : Timestamp)
  | reopen

/-- The fault of what is done with a store, if there is one, and the store after it. A folder that
cannot be opened is kept. -/
def use (store : Durable) : Usage → Option StoreError × Durable
  | .call call now =>
    let out := (call.perform now).run store
    match out.result with
    | .ok _ => (none, out.state)
    | .error e => (some e, out.state)
  | .reopen =>
    let out := openFolder.run store.folder
    match out.result with
    | .ok opened => (none, opened)
    | .error e => (some e, { store with folder := out.state })

/-- The store after all that was done with it. -/
def afterAll (store : Durable) (usages : List Usage) : Durable :=
  usages.foldl (fun store usage => (store.use usage).2) store

variable {store store' : Durable} {next : UInt32}

/-- A call keeps every client such that the wire can carry it. -/
theorem Effect.fits {now : Timestamp} {call : StoreCall} {answer : StoreAnswer}
    (effect : Effect now store call answer store') (consistent : store.directory.Consistent)
    (fits : store.directory.Fits) : store'.directory.Fits := by
  cases effect with
  | registered id name key directory inserted =>
    obtain ⟨fresh, same⟩ := consistent.insert?_eq_some inserted
    intro record hr
    rw [show (store.committed directory).directory = directory from rfl, same,
      consistent.all_restore fresh] at hr
    obtain hr | hr := List.mem_append.1 hr
    · exact fits record hr
    · rw [List.mem_singleton.1 hr]
      exact Directory.checkFields_of_insert? inserted
  | seen id before directory seen =>
    obtain ⟨-, all, -⟩ := consistent.see seen
    intro record hr
    rw [show (store.committed directory).directory = directory from rfl, all] at hr
    obtain ⟨old, ho, rfl⟩ := List.mem_map.1 hr
    have carried := fits old ho
    unfold Directory.seenAt
    split <;> exact carried
  | wasted _ _ _ _ _ _ _ fault =>
    rw [fault.directory_eq]
    exact fits
  | unremoved _ _ _ fault =>
    rw [fault.directory_eq]
    exact fits
  | asked | refused | occupied | unregistered | unknown | unseen | exhausted | taken | absent
  | removed => exact fits

/-- A record that cannot be written leaves the snapshot as it is. -/
theorem RecordFault.snapshot_eq {entry : JournalEntry} {e : StoreError}
    (fault : RecordFault entry store e store') :
    store'.folder.snapshot? = store.folder.snapshot? := by
  cases fault <;> rfl

/-- A call that fails leaves the directory and its file. -/
theorem Effect.of_error {now : Timestamp} {call : StoreCall} {e : StoreError}
    (effect : Effect now store call (.error e) store') :
    store'.directory = store.directory ∧ store'.folder.snapshot? = store.folder.snapshot? := by
  cases effect with
  | wasted _ _ _ _ _ _ _ fault => exact ⟨fault.directory_eq, fault.snapshot_eq⟩
  | unremoved _ _ _ fault => exact ⟨fault.directory_eq, fault.snapshot_eq⟩
  | refused | unregistered | unseen | exhausted => exact ⟨rfl, rfl⟩

/-- A usage keeps the store sound and the fields of its clients within their bounds. -/
theorem Sound.use (sound : store.Sound next) (fits : store.directory.Fits) (usage : Usage) :
    (∃ next', (store.use usage).2.Sound next') ∧ (store.use usage).2.directory.Fits := by
  cases usage with
  | call call now =>
    have effect := effect_perform now call store
    have left : (store.use (.call call now)).2 = ((call.perform now).run store).state := by
      simp only [Durable.use]
      cases ((call.perform now).run store).result <;> rfl
    rw [left]
    exact ⟨⟨_, (sound.effect effect).1.sound⟩, effect.fits sound.consistent fits⟩
  | reopen =>
    obtain ⟨opened, result, -, sound', contents, -⟩ := openFolder_of_holds sound.holds
    simp only [Durable.use, result]
    refine ⟨⟨next, sound'⟩, ?_⟩
    intro record hr
    have sorted : opened.directory.sorted = store.directory.sorted :=
      congrArg Contents.clients contents
    apply fits
    rw [← Directory.mem_sorted, ← sorted, Directory.mem_sorted]
    exact hr

/-- Any usages keep the store sound and the fields of its clients within their bounds. -/
theorem Sound.afterAll (sound : store.Sound next) (fits : store.directory.Fits)
    (usages : List Usage) :
    (∃ next', (store.afterAll usages).Sound next') ∧ (store.afterAll usages).directory.Fits := by
  induction usages generalizing store next with
  | nil => exact ⟨⟨next, sound⟩, fits⟩
  | cons usage usages ih =>
    obtain ⟨⟨next', sound'⟩, fits'⟩ := sound.use fits usage
    exact ih sound' fits'

/-! ## Agreement -/

/-- The parts of the directory in memory belong together, and its file holds the same clients in the
order of their names. -/
structure Agrees (store : Durable) : Prop where
  inverse : ∀ name id, store.directory.names.find? name = some id ↔
    ∃ record, store.directory.records.find? id = some record ∧ record.name = name
  valid : ∀ id record, store.directory.records.find? id = some record →
    record.id = id ∧ Directory.checkFields record.name record.publicKey = .ok ()
  file : (store.folder.snapshot? = none ∧ store.directory = .empty) ∨
    ∃ content records, store.folder.snapshot? = some content ∧
      ofSnapshot? store.folder.snapshotPath content = .ok records ∧
      records.Pairwise (fun a b => Text.le a.name b.name = true) ∧ (records.map (·.id)).Nodup ∧
      ∀ record, record ∈ records ↔ store.directory.records.find? record.id = some record

/-- The directory of a sound store belongs together and agrees with its file. -/
theorem Sound.agrees (sound : store.Sound next) (fits : store.directory.Fits) : store.Agrees where
  inverse := by
    intro name id
    rw [sound.consistent.named]
    constructor
    · rintro ⟨record, hr, named, rfl⟩
      exact ⟨record, (sound.consistent.find?_records _ _).2 ⟨hr, rfl⟩, named⟩
    · rintro ⟨record, found, named⟩
      obtain ⟨hr, rfl⟩ := (sound.consistent.find?_records _ _).1 found
      exact ⟨record, hr, named, rfl⟩
  valid := by
    intro id record found
    obtain ⟨hr, rfl⟩ := (sound.consistent.find?_records _ _).1 found
    exact ⟨rfl, fits record hr⟩
  file := by
    obtain ⟨absent, nobody⟩ | present := sound.snapshot
    · exact .inl ⟨absent, sound.consistent.eq_empty_of_sorted nobody⟩
    · right
      refine ⟨_, store.directory.sorted, present, ofSnapshot?_snapshotOf _ _, ?_, ?_, ?_⟩
      · exact Directory.pairwise_arrange store.directory.all
      · have distinct := sound.consistent.distinct
        rw [← sound.consistent.map_id] at distinct
        exact ((Directory.perm_arrange store.directory.all).map _).nodup_iff.2 distinct
      · intro record
        rw [Directory.mem_sorted, sound.consistent.find?_records]
        exact (and_iff_left rfl).symm

/-- What is done in vain with a store leaves its directory and the file of it. -/
theorem use_of_error {usage : Usage} {e : StoreError} (sound : store.Sound next)
    (failed : (store.use usage).1 = some e) :
    (store.use usage).2.directory = store.directory ∧
      (store.use usage).2.folder.snapshot? = store.folder.snapshot? := by
  cases usage with
  | call call now =>
    have effect := effect_perform now call store
    simp only [use] at failed ⊢
    cases answer : ((call.perform now).run store).result with
    | ok reply =>
      rw [answer] at failed
      cases failed
    | error e' =>
      rw [answer] at effect
      exact effect.of_error
  | reopen =>
    obtain ⟨opened, result, -⟩ := openFolder_of_holds sound.holds
    simp only [use, result] at failed
    cases failed

/-- A store opens again with the same clients, and its file of clients stays as it is. -/
theorem Sound.use_reopen (sound : store.Sound next) :
    (store.use .reopen).1 = none ∧
      (store.use .reopen).2.directory.sorted = store.directory.sorted ∧
      (store.use .reopen).2.folder.snapshot? = store.folder.snapshot? := by
  obtain ⟨opened, result, -, -, contents, -, log, same⟩ := openFolder_of_holds sound.holds
  rw [Durable.use, result]
  refine ⟨rfl, congrArg Contents.clients contents, ?_⟩
  rw [same]

/-- Whatever is done with a store that began in an empty folder, and whichever writes of its
snapshot fail, names and clients belong together, the wire can carry every client, and the file of
clients is there once there are any and holds just them, in the order of their names. What fails
leaves the directory and its file. It makes no difference whether a change is made in memory first
and taken back if it cannot be written, nor at which stage a write fails. -/
theorem directory_matches_file (path : String) (snapshotFaults : List Bool) (rooms : List Nat)
    (usages : List Usage) :
    ∃ first, (openFolder.run ⟨path, none, none, snapshotFaults, rooms⟩).result = .ok first ∧
      let store := first.afterAll usages
      store.Agrees ∧
      (∀ usage e, (store.use usage).1 = some e →
        (store.use usage).2.directory = store.directory ∧
          (store.use usage).2.folder.snapshot? = store.folder.snapshot?) ∧
      ((store.use .reopen).1 = none ∧
        (store.use .reopen).2.directory.sorted = store.directory.sorted ∧
        (store.use .reopen).2.folder.snapshot? = store.folder.snapshot?) ∧
      (∀ id name key now,
        (insertThenWrite id name key now).run store = (insertClient id name key now).run store) ∧
      (∀ id now, (seeThenWrite id now).run store = (updateLastSeen id now).run store) ∧
      ∀ (fault? : Option WriteStage) (written : Nat) (content : Bytes) (beside? : Option Bytes)
        (folder : DataFolder),
        let replaced :=
          (FilePair.replaceFile fault? written content).run ⟨folder.snapshot?, beside?⟩
        let out := (DataFolder.writeSnapshot content).run
          { folder with snapshotFaults := fault?.isSome :: folder.snapshotFaults }
        out.result = replaced.result ∧
          out.state = { folder with snapshot? := replaced.state.file? } := by
  obtain ⟨first, opened, -, sound, contents, -⟩ := openFolder_of_holds
    (show DataFolder.Holds ⟨path, none, none, snapshotFaults, rooms⟩ .empty 1 from
      DataFolder.holds_nothing rfl rfl)
  have nobody : first.directory = .empty :=
    sound.consistent.eq_empty_of_sorted (congrArg Contents.clients contents)
  have fits : first.directory.Fits := by
    rw [nobody]
    intro record hr
    cases hr
  -- soundness is what all usages keep; agreement follows from it at the end
  obtain ⟨⟨next, sound'⟩, fits'⟩ := sound.afterAll fits usages
  refine ⟨first, opened, sound'.agrees fits', ?_, sound'.use_reopen, ?_, ?_, ?_⟩
  · intro usage e
    exact use_of_error sound'
  · exact run_insertThenWrite sound'.consistent
  · intro id now
    exact run_seeThenWrite id now _
  · exact run_replaceFile

end Durable

end Store

end MessageRelay
