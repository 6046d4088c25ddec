import MessageRelay.Proofs.Store.EitherKind

/-!
# The roll of clients

The clients of a store as they were registered: their identifiers, names and keys, in any order. The
store answers every question about clients from the roll. Noting that a client was seen, failing and
restarting leave the roll, and taking in a client adds one entry to it, the identifier and the name
of which were not on it.
-/

set_option autoImplicit false

namespace MessageRelay.Store

open Protocol (ClientId)

/-- A client as it was registered. -/
structure Registration where
  id : ClientId
  name : String
  key : Bytes
  deriving DecidableEq

/-- The registration of a client. -/
def Registration.of (record : ClientRecord) : Registration :=
  ⟨record.id, record.name, record.publicKey⟩

/-- A registration says nothing of when its client was seen. -/
@[simp] theorem Registration.of_seenAt (id : ClientId) (moment : Timestamp)
    (record : ClientRecord) : of (Directory.seenAt id moment record) = of record := by
  unfold Directory.seenAt
  split <;> rfl

/-- Only a client whose fields were checked is looked for a place. -/
theorem Directory.checkFields_of_insert? {id : ClientId} {name : String} {key : Bytes}
    {now : Timestamp} {directory : Directory} {directory? : Option Directory}
    (h : directory.insert? id name key now = .ok directory?) : checkFields name key = .ok () := by
  unfold insert? at h
  cases checked : checkFields name key with
  | error e =>
    rw [checked] at h
    cases h
  | ok _ => rfl

/-- A key that was checked takes its width. -/
theorem Directory.width_of_checkFields {name : String} {key : Bytes}
    (h : checkFields name key = .ok ()) : key.length = Protocol.publicKeySize :=
  (checkFields_eq_ok_iff.1 h).2.2

/-- A client whose identifier and name are free is taken in if the wire can carry its fields. -/
theorem Directory.insert?_of_free {directory : Directory} {id : ClientId} {name : String}
    (freeId : directory.hasId id = false) (freeName : directory.hasName name = false) {key : Bytes}
    (fits : checkFields name key = .ok ()) (now : Timestamp) :
    directory.insert? id name key now = .ok (some (directory.restore ⟨id, name, key, now⟩)) := by
  simp [insert?, fits, freeId, freeName, bind, Except.bind]

namespace Backend

/-- The clients of a store are those on a roll. -/
structure Enrols (roll : List Registration) (store : Backend) : Prop where
  sound : ∃ next, store.Sound next
  listed : (store.directory.all.map Registration.of).Perm roll
  fits : ∀ entry ∈ roll, Directory.checkFields entry.name entry.key = .ok ()

variable {store store' : Backend} {roll : List Registration}

/-- The directory of a store that enrols a roll is consistent. -/
theorem Enrols.consistent (enrols : store.Enrols roll) : store.directory.Consistent := by
  obtain ⟨next, sound⟩ := enrols.sound
  exact sound.consistent

/-- The mailbox of a store that enrols a roll is well kept. -/
theorem Enrols.kept (enrols : store.Enrols roll) : store.mailbox.WellKept := by
  obtain ⟨next, sound⟩ := enrols.sound
  exact sound.kept

/-- The roll lists the clients of the directory. -/
theorem Enrols.mem_iff (enrols : store.Enrols roll) (entry : Registration) :
    entry ∈ roll ↔ ∃ record ∈ store.directory.all, Registration.of record = entry := by
  rw [← enrols.listed.mem_iff, List.mem_map]

/-! ## Questions -/

/-- No identifier stands on the roll twice. -/
theorem Enrols.nodup_ids (enrols : store.Enrols roll) : (roll.map (·.id)).Nodup := by
  refine (enrols.listed.map (·.id)).nodup ?_
  have distinct := enrols.consistent.distinct
  rw [← enrols.consistent.map_id] at distinct
  rw [List.map_map]
  exact distinct

/-- An identifier is taken exactly if it stands on the roll. -/
theorem Enrols.hasId_iff (enrols : store.Enrols roll) (id : ClientId) :
    store.directory.hasId id = true ↔ ∃ entry ∈ roll, entry.id = id := by
  rw [enrols.consistent.hasId_iff]
  constructor
  · rintro ⟨record, hr, rfl⟩
    exact ⟨.of record, (enrols.mem_iff _).2 ⟨record, hr, rfl⟩, rfl⟩
  · rintro ⟨entry, he, rfl⟩
    obtain ⟨record, hr, rfl⟩ := (enrols.mem_iff entry).1 he
    exact ⟨record, hr, rfl⟩

/-- A name is taken exactly if it stands on the roll. -/
theorem Enrols.hasName_iff (enrols : store.Enrols roll) (name : String) :
    store.directory.hasName name = true ↔ ∃ entry ∈ roll, entry.name = name := by
  rw [enrols.consistent.hasName_iff]
  constructor
  · rintro ⟨record, hr, rfl⟩
    exact ⟨.of record, (enrols.mem_iff _).2 ⟨record, hr, rfl⟩, rfl⟩
  · rintro ⟨entry, he, rfl⟩
    obtain ⟨record, hr, rfl⟩ := (enrols.mem_iff entry).1 he
    exact ⟨record, hr, rfl⟩

/-- The name of an entry on the roll leads to its identifier and its key. -/
theorem Enrols.lookUp_eq (enrols : store.Enrols roll) {entry : Registration} (he : entry ∈ roll) :
    store.directory.idOf? entry.name = some entry.id ∧
      store.directory.keyOf? entry.name = some entry.key := by
  obtain ⟨record, hr, rfl⟩ := (enrols.mem_iff entry).1 he
  have found := enrols.consistent.find?_sorted hr
  show store.directory.idOf? record.name = some record.id ∧
    store.directory.keyOf? record.name = some record.publicKey
  rw [enrols.consistent.idOf?_eq, enrols.consistent.keyOf?_eq, found]
  exact ⟨rfl, rfl⟩

/-- A name that is not on the roll leads to no identifier. -/
theorem Enrols.idOf?_eq_none (enrols : store.Enrols roll) {name : String}
    (absent : ∀ entry ∈ roll, entry.name ≠ name) : store.directory.idOf? name = none := by
  cases found : store.directory.idOf? name with
  | none => rfl
  | some id =>
    obtain ⟨record, hr, named, -⟩ := (enrols.consistent.named name id).1 found
    exact absurd named (absent _ ((enrols.mem_iff _).2 ⟨record, hr, rfl⟩))

/-! ## Changes -/

/-- A fresh store enrols the empty roll. -/
theorem Fresh.enrols (fresh : store.Fresh) : store.Enrols [] where
  sound := fresh.sound
  listed := by
    cases fresh with
    | memory => exact .nil
    | files folder store noSnapshot noJournal opened =>
      rw [Durable.result_openFolder_of_noFiles noSnapshot noJournal] at opened
      cases opened
      exact .nil
  fits := by simp

/-- The roll stays as long as the directory does and the store is sound. -/
theorem Enrols.of_directory (enrols : store.Enrols roll) (sound : ∃ next, store'.Sound next)
    (directory : store'.directory = store.directory) : store'.Enrols roll where
  sound := sound
  listed := by
    rw [directory]
    exact enrols.listed
  fits := enrols.fits

/-- The roll stays when a call spares the store. -/
theorem Enrols.spared (enrols : store.Enrols roll) (spared : store.Spared store') :
    store'.Enrols roll := by
  obtain ⟨next, sound⟩ := enrols.sound
  exact enrols.of_directory ⟨next, spared.sound next sound⟩ spared.directory

/-- The roll stays when a client is seen. -/
theorem Enrols.sighting (enrols : store.Enrols roll) {id : ClientId} {now : Timestamp}
    (sighting : Sighting id now store store') : store'.Enrols roll := by
  obtain ⟨next, sound⟩ := enrols.sound
  cases sighting with
  | unknown => exact enrols
  | unwritten fault accords directory mailbox =>
    exact enrols.of_directory ⟨next, accords.sound next sound⟩ directory
  | seen accords h mailbox =>
    refine ⟨⟨next, accords.sound next sound⟩, ?_, enrols.fits⟩
    rw [(enrols.consistent.see h).2.1, List.map_map]
    simpa only [Function.comp_def, Registration.of_seenAt] using enrols.listed

/-- A client that is taken in stands at the end of the roll. -/
theorem Enrols.enrolled (enrols : store.Enrols roll) {id : ClientId} {name : String} {key : Bytes}
    {now : Timestamp} (enrolled : Enrolment id name key now store (.ok true) store') :
    store'.Enrols (roll ++ [⟨id, name, key⟩]) := by
  obtain ⟨next, sound⟩ := enrols.sound
  cases enrolled with
  | enrolled accords h =>
    obtain ⟨fresh, same⟩ := enrols.consistent.insert?_eq_some h
    refine ⟨⟨next, accords.sound next sound⟩, ?_, ?_⟩
    · rw [same, enrols.consistent.all_restore fresh, List.map_append]
      exact enrols.listed.append_right _
    · intro entry he
      obtain he | he := List.mem_append.1 he
      · exact enrols.fits entry he
      · rw [List.mem_singleton.1 he]
        exact Directory.checkFields_of_insert? h

/-- The roll stays when the store is opened again. -/
theorem Enrols.restarted (enrols : store.Enrols roll) : store.restarted.Enrols roll := by
  obtain ⟨next, sound⟩ := enrols.sound
  obtain ⟨sound', sorted⟩ := sound.restarted
  refine ⟨sound', ?_, enrols.fits⟩
  have same : store.restarted.directory.all.Perm store.directory.all := by
    have perm := Directory.perm_arrange store.restarted.directory.all
    rw [← Directory.sorted_eq_arrange, sorted] at perm
    exact perm.symm.trans (Directory.perm_arrange store.directory.all)
  exact (same.map _).trans enrols.listed

/-- A call takes nobody off the roll. -/
theorem Enrols.call (enrols : store.Enrols roll) (call : StoreCall) (now : Timestamp) :
    ∃ roll', roll <+: roll' ∧ ((call.perform now).run store).state.Enrols roll' := by
  obtain ⟨next, sound⟩ := enrols.sound
  have performed := sound.perform call now
  cases call with
  | ask question =>
    refine ⟨roll, List.prefix_refl _, enrols.of_directory performed ?_⟩
    cases question <;> cases store <;> rfl
  | insertClient id name key =>
    rw [StoreCall.perform, Action.run_bind_pure]
    have enrolment := enrolment id name key now store
    generalize ((RelayStore.insertClient id name key now).run store).result = result at enrolment
    generalize ((RelayStore.insertClient id name key now).run store).state = store' at enrolment ⊢
    cases enrolment with
    | refused | occupied => exact ⟨roll, List.prefix_refl _, enrols⟩
    | unwritten fault spared => exact ⟨roll, List.prefix_refl _, enrols.spared spared⟩
    | enrolled accords h =>
      exact ⟨_, List.prefix_append _ _, enrols.enrolled (.enrolled accords h)⟩
  | updateLastSeen id =>
    rw [StoreCall.perform, Action.run_bind_pure]
    exact ⟨roll, List.prefix_refl _, enrols.sighting (Backend.sighting id now store)⟩
  | insertMessage target sender type content =>
    rw [StoreCall.perform, Action.run_bind_pure] at performed ⊢
    exact ⟨roll, List.prefix_refl _,
      enrols.of_directory performed (directory_insertMessage now target sender type content store)⟩
  | deleteMessage id =>
    rw [StoreCall.perform, Action.run_bind_pure] at performed ⊢
    exact ⟨roll, List.prefix_refl _,
      enrols.of_directory performed (directory_deleteMessage now id store)⟩

/-- A store takes in a client whose identifier and name are free and whose fields the wire can carry,
unless its snapshot fails, and no other client. -/
theorem insertClient_of_free {id : ClientId} {name : String}
    (freeId : store.directory.hasId id = false) (freeName : store.directory.hasName name = false)
    (key : Bytes) (now : Timestamp) :
    let result := ((RelayStore.insertClient id name key now).run store).result
    (result = .ok true → Directory.checkFields name key = .ok ()) ∧
      (Directory.checkFields name key = .ok () →
        result = .ok true ∨ store.snapshotFaults.head? = some true ∧ ∃ e, result = .error e) := by
  intro result
  obtain ⟨_, enrolment⟩ : ∃ store', Enrolment id name key now store result store' :=
    ⟨_, enrolment id name key now store⟩
  have taken (fits : Directory.checkFields name key = .ok ()) :=
    Directory.insert?_of_free freeId freeName fits now
  clear_value result
  cases enrolment with
  | refused h =>
    refine ⟨by simp, fun fits => ?_⟩
    rw [taken fits] at h
    cases h
  | unwritten fault =>
    exact ⟨by simp, fun _ => .inr ⟨fault, _, rfl⟩⟩
  | occupied h =>
    refine ⟨by simp, fun fits => ?_⟩
    rw [taken fits] at h
    cases h
  | enrolled accords h => exact ⟨fun _ => Directory.checkFields_of_insert? h, fun _ => .inl rfl⟩

/-- Every list of clients with identifiers and names of their own that the wire can carry is the roll
of a store. -/
theorem exists_enrols (now : Timestamp) {roll : List Registration}
    (ids : (roll.map (·.id)).Nodup) (names : (roll.map (·.name)).Nodup)
    (fits : ∀ entry ∈ roll, Directory.checkFields entry.name entry.key = .ok ()) :
    ∃ volatile, (memory volatile).Reached ∧ (memory volatile).Enrols roll := by
  induction roll using List.reverseRecOn with
  | nil => exact ⟨.empty, .fresh .memory, Fresh.memory.enrols⟩
  | append_singleton roll entry ih =>
    simp only [List.map_append, List.map_cons, List.map_nil, List.nodup_append, List.mem_singleton,
      List.mem_append, forall_eq] at ids names fits
    obtain ⟨volatile, reached, enrols⟩ :=
      ih ids.1 names.1 fun other listed => fits other (.inl listed)
    have freeId : (memory volatile).directory.hasId entry.id = false := by
      rw [Bool.eq_false_iff, Ne, enrols.hasId_iff]
      rintro ⟨other, listed, same⟩
      exact ids.2.2 _ (List.mem_map_of_mem listed) same
    have freeName : (memory volatile).directory.hasName entry.name = false := by
      rw [Bool.eq_false_iff, Ne, enrols.hasName_iff]
      rintro ⟨other, listed, same⟩
      exact names.2.2 _ (List.mem_map_of_mem listed) same
    have enrolment := enrolment entry.id entry.name entry.key now (memory volatile)
    obtain accepted | ⟨fault, -⟩ :=
      (insertClient_of_free freeId freeName entry.key now).2 (fits entry (.inr rfl))
    · rw [accepted] at enrolment
      have called := reached.call (.insertClient entry.id entry.name entry.key) now
      rw [StoreCall.perform, Action.run_bind_pure] at called
      exact ⟨((Volatile.insertClient entry.id entry.name entry.key now).run volatile).state, called,
        enrols.enrolled enrolment⟩
    · cases fault

/-- There is a roll for every store. -/
theorem Reached.enrols (reached : store.Reached) : ∃ roll, store.Enrols roll := by
  induction reached with
  | fresh fresh => exact ⟨[], fresh.enrols⟩
  | call _ call now ih =>
    obtain ⟨roll, enrols⟩ := ih
    obtain ⟨roll', -, enrols'⟩ := enrols.call call now
    exact ⟨roll', enrols'⟩
  | @reopen store _ ih =>
    obtain ⟨roll, enrols⟩ := ih
    cases store with
    | memory store => exact ⟨[], Fresh.memory.enrols⟩
    | files store => exact ⟨roll, enrols.restarted⟩

end Backend

end MessageRelay.Store
