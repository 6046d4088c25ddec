import MessageRelay.Proofs.Text.Utf8Form
import MessageRelay.Store.Directory

/-!
# The order of a directory

In a consistent directory every client stands under its own identifier, and names lead to the
identifiers of the clients that have them, so neither identifiers nor names occur twice. The empty
directory is consistent, and taking in a client whose identifier and name are new and noting that a
client was seen keep a directory so. A directory that is built from the sorted clients of a
consistent one lists the same clients (`sorted_ofRecords`).
-/

set_option autoImplicit false

namespace MessageRelay

/-! ## The order of texts -/

namespace Text

/-- Any two byte strings stand in order one way or the other. -/
theorem bytesLe_total (a b : Bytes) : (bytesLe a b || bytesLe b a) = true := by
  induction a generalizing b with
  | nil => simp [bytesLe]
  | cons x a ih =>
    cases b with
    | nil => simp [bytesLe]
    | cons y b =>
      by_cases h : x = y
      · subst h
        simpa [bytesLe] using ih b
      · have h' : ¬ y = x := fun e => h e.symm
        have trichotomy : x < y ∨ y < x := by
          have hne : x.toNat ≠ y.toNat := fun e => h (UInt8.toNat_inj.1 e)
          simp only [UInt8.lt_iff_toNat_lt]
          omega
        simpa [bytesLe, h, h'] using trichotomy

/-- The order of byte strings is transitive. -/
theorem bytesLe_trans {a b c : Bytes} (hab : bytesLe a b = true) (hbc : bytesLe b c = true) :
    bytesLe a c = true := by
  induction a generalizing b c with
  | nil => rfl
  | cons x a ih =>
    cases b with
    | nil => cases hab
    | cons y b =>
      cases c with
      | nil => cases hbc
      | cons z c =>
        -- the first bytes decide unless they are the same, and then the rest does
        simp only [bytesLe, beq_iff_eq] at hab hbc ⊢
        split at hab
        · rename_i hxy
          subst hxy
          split at hbc
          · rename_i hxz
            rw [if_pos hxz]
            exact ih hab hbc
          · rename_i hxz
            rw [if_neg hxz]
            exact hbc
        · split at hbc
          · rename_i hxy hyz
            subst hyz
            rw [if_neg hxy]
            exact hab
          · simp only [decide_eq_true_eq, UInt8.lt_iff_toNat_lt] at hab hbc
            have hxz : x ≠ z := by
              intro e
              subst e
              omega
            rw [if_neg hxz, decide_eq_true_eq, UInt8.lt_iff_toNat_lt]
            omega

/-- Byte strings in order both ways are the same. -/
theorem bytesLe_antisymm {a b : Bytes} (hab : bytesLe a b = true) (hba : bytesLe b a = true) :
    a = b := by
  induction a generalizing b with
  | nil =>
    cases b with
    | nil => rfl
    | cons y b => cases hba
  | cons x a ih =>
    cases b with
    | nil => cases hab
    | cons y b =>
      simp only [bytesLe, beq_iff_eq] at hab hba
      by_cases h : x = y
      · subst h
        simp only [if_true] at hab hba
        rw [ih hab hba]
      · have h' : ¬ y = x := fun e => h e.symm
        rw [if_neg h, decide_eq_true_eq, UInt8.lt_iff_toNat_lt] at hab
        rw [if_neg h', decide_eq_true_eq, UInt8.lt_iff_toNat_lt] at hba
        omega

/-- Texts in order both ways are the same. -/
theorem le_antisymm {a b : String} (hab : le a b = true) (hba : le b a = true) : a = b :=
  utf8_injective (bytesLe_antisymm hab hba)

/-- The order is the lexicographic one. -/
theorem lt_of_bytesLe {a b : Bytes} (hab : bytesLe a b = true) (different : a ≠ b) : a < b := by
  induction a generalizing b with
  | nil =>
    cases b with
    | nil => exact absurd rfl different
    | cons y b => exact List.nil_lt_cons y b
  | cons x a ih =>
    cases b with
    | nil => cases hab
    | cons y b =>
      simp only [bytesLe, beq_iff_eq] at hab
      rw [List.cons_lt_cons_iff]
      by_cases h : x = y
      · subst h
        rw [if_pos rfl] at hab
        exact .inr ⟨rfl, ih hab fun same => different (congrArg (x :: ·) same)⟩
      · rw [if_neg h, decide_eq_true_eq] at hab
        exact .inl hab

/-- Of two texts in order the first has the smaller bytes, unless they are the same. -/
theorem utf8_lt_of_le {a b : String} (hab : le a b = true) (different : a ≠ b) :
    utf8 a < utf8 b :=
  lt_of_bytesLe hab fun same => different (utf8_injective same)

end Text

/-! ## Tables -/

namespace Table

variable {κ α : Type} [DecidableEq κ]

/-- In a table without double keys every entry is found under its key. -/
theorem find?_eq_some_iff {table : Table κ α} (distinct : (table.map (·.1)).Nodup) (key : κ)
    (value : α) : table.find? key = some value ↔ (key, value) ∈ table := by
  induction table with
  | nil => simp
  | cons entry table ih =>
    obtain ⟨k, a⟩ := entry
    rw [List.map_cons, List.nodup_cons] at distinct
    obtain ⟨fresh, distinct⟩ := distinct
    by_cases h : k = key
    · subst h
      have absent : (k, value) ∉ table := fun hm => fresh (List.mem_map.2 ⟨_, hm, rfl⟩)
      simp [find?, absent, eq_comm]
    · have differ : ¬ key = k := fun e => h e.symm
      simp [find?, h, differ, ih distinct]

/-- Nothing is found under a key exactly if no entry has it. -/
theorem find?_eq_none_iff (table : Table κ α) (key : κ) :
    table.find? key = none ↔ ∀ entry ∈ table, entry.1 ≠ key := by
  induction table with
  | nil => simp
  | cons entry table ih =>
    obtain ⟨k, a⟩ := entry
    by_cases h : k = key
    · simp [find?, h]
    · simp [find?, h, ih]

/-- Writing under a new key puts an entry at the end. -/
theorem put_of_find?_eq_none {table : Table κ α} {key : κ} (value : α)
    (h : table.find? key = none) : table.put key value = table ++ [(key, value)] := by
  induction table with
  | nil => rfl
  | cons entry table ih =>
    obtain ⟨k, a⟩ := entry
    by_cases hk : k = key
    · simp [find?, hk] at h
    · simp only [find?, hk, if_false] at h
      simp [put, hk, ih h]

/-- Writing under a key that is present changes its entry alone. -/
theorem put_of_mem {table : Table κ α} (distinct : (table.map (·.1)).Nodup) {key : κ}
    (value : α) (h : ∃ entry ∈ table, entry.1 = key) :
    table.put key value
      = table.map fun entry => if entry.1 = key then (key, value) else entry := by
  induction table with
  | nil => simp at h
  | cons entry table ih =>
    obtain ⟨k, a⟩ := entry
    rw [List.map_cons, List.nodup_cons] at distinct
    obtain ⟨fresh, distinct⟩ := distinct
    by_cases hk : k = key
    · subst hk
      have rest : table.map (fun entry => if entry.1 = k then (k, value) else entry) = table := by
        refine (List.map_congr_left ?_).trans (List.map_id _)
        intro entry he
        have differ : entry.1 ≠ k := fun e => fresh (List.mem_map.2 ⟨entry, he, e⟩)
        simp [differ]
      simp [put, rest]
    · have later : ∃ entry ∈ table, entry.1 = key := by
        obtain ⟨entry, he, same⟩ := h
        obtain rfl | he := List.mem_cons.1 he
        · exact absurd same hk
        · exact ⟨entry, he, same⟩
      simp [put, hk, ih distinct later]

end Table

namespace Store

open Protocol (ClientId)

namespace Directory

/-- The clients in the order in which they came. -/
def all (directory : Directory) : List ClientRecord :=
  directory.records.map (·.2)

/-- What holds in every directory that was filled by its operations. -/
structure Consistent (directory : Directory) : Prop where
  distinct : (directory.records.map (·.1)).Nodup
  keyed : ∀ entry ∈ directory.records, entry.2.id = entry.1
  named : ∀ name id, directory.names.find? name = some id ↔
    ∃ record ∈ directory.all, record.name = name ∧ record.id = id

/-- An empty directory is consistent. -/
theorem consistent_empty : empty.Consistent where
  distinct := List.nodup_nil
  keyed := by simp [empty]
  named := by simp [empty, all]

/-! ## Questions -/

/-- The identifiers of the clients are the keys under which they stand. -/
theorem Consistent.map_id {directory : Directory} (h : directory.Consistent) :
    directory.all.map (·.id) = directory.records.map (·.1) := by
  rw [all, List.map_map]
  exact List.map_congr_left h.keyed

/-- The record found under an identifier is the client that has it. -/
theorem Consistent.find?_records {directory : Directory} (h : directory.Consistent)
    (id : ClientId) (record : ClientRecord) :
    directory.records.find? id = some record ↔ record ∈ directory.all ∧ record.id = id := by
  rw [Table.find?_eq_some_iff h.distinct]
  constructor
  · intro hm
    exact ⟨List.mem_map_of_mem hm, h.keyed _ hm⟩
  · rintro ⟨hm, rfl⟩
    obtain ⟨entry, he, rfl⟩ := List.mem_map.1 hm
    rw [h.keyed entry he]
    exact he

/-- An identifier is taken exactly if a client has it. -/
theorem Consistent.hasId_iff {directory : Directory} (h : directory.Consistent) (id : ClientId) :
    directory.hasId id = true ↔ ∃ record ∈ directory.all, record.id = id := by
  rw [hasId, Table.has, Option.isSome_iff_exists]
  exact exists_congr fun record => h.find?_records id record

/-- A name is taken exactly if a client has it. -/
theorem Consistent.hasName_iff {directory : Directory} (h : directory.Consistent)
    (name : String) :
    directory.hasName name = true ↔ ∃ record ∈ directory.all, record.name = name := by
  rw [hasName, Table.has, Option.isSome_iff_exists]
  constructor
  · rintro ⟨id, hid⟩
    obtain ⟨record, hr, hn, -⟩ := (h.named name id).1 hid
    exact ⟨record, hr, hn⟩
  · rintro ⟨record, hr, hn⟩
    exact ⟨record.id, (h.named name _).2 ⟨record, hr, hn, rfl⟩⟩

/-- Clients with one identifier are the same. -/
theorem Consistent.eq_of_id {directory : Directory} (h : directory.Consistent)
    {a b : ClientRecord} (ha : a ∈ directory.all) (hb : b ∈ directory.all) (hid : a.id = b.id) :
    a = b := by
  have found := (h.find?_records a.id a).2 ⟨ha, rfl⟩
  rw [(h.find?_records a.id b).2 ⟨hb, hid.symm⟩] at found
  exact (Option.some.inj found).symm

/-- Clients with one name are the same. -/
theorem Consistent.eq_of_name {directory : Directory} (h : directory.Consistent)
    {a b : ClientRecord} (ha : a ∈ directory.all) (hb : b ∈ directory.all)
    (hn : a.name = b.name) : a = b := by
  have found := (h.named a.name a.id).2 ⟨a, ha, rfl, rfl⟩
  rw [(h.named a.name b.id).2 ⟨b, hb, hn.symm, rfl⟩] at found
  exact h.eq_of_id ha hb (Option.some.inj found).symm

/-- No client stands in the directory twice. -/
theorem Consistent.nodup_all {directory : Directory} (h : directory.Consistent) :
    directory.all.Nodup := by
  have distinct := h.distinct
  rw [← h.map_id, List.Nodup, List.pairwise_map] at distinct
  exact distinct.imp fun hne same => hne (congrArg _ same)

/-! ## Fields -/

/-- The fields of a client are refused unless the name has a byte and room in its field, and the key
has the width of one. -/
theorem checkFields_eq_ok_iff {name : String} {key : Bytes} :
    checkFields name key = .ok () ↔
      name ≠ "" ∧ (Text.utf8 name).length ≤ Protocol.maxNameLength ∧
        key.length = Protocol.publicKeySize := by
  rw [Ne, ← Text.length_utf8_eq_zero_iff]
  simp only [checkFields]
  by_cases badName : (Text.utf8 name).length = 0 ∨ Protocol.maxNameLength < (Text.utf8 name).length
  · rw [if_pos badName]
    simp only [reduceCtorEq, false_iff]
    omega
  · by_cases badKey : key.length ≠ Protocol.publicKeySize
    · rw [if_neg badName, if_pos badKey]
      simp only [reduceCtorEq, false_iff]
      omega
    · rw [if_neg badName, if_neg badKey]
      simp only [true_iff]
      omega

/-! ## Changes -/

/-- A client whose identifier and name are new. -/
structure Fresh (record : ClientRecord) (directory : Directory) : Prop where
  id : ∀ other ∈ directory.all, other.id ≠ record.id
  name : ∀ other ∈ directory.all, other.name ≠ record.name

/-- A client that is fresh to a directory is put behind its records. -/
theorem Consistent.records_restore {directory : Directory} (h : directory.Consistent)
    {record : ClientRecord} (fresh : Fresh record directory) :
    (directory.restore record).records = directory.records ++ [(record.id, record)] := by
  apply Table.put_of_find?_eq_none
  rw [Table.find?_eq_none_iff]
  intro entry he
  rw [← h.keyed entry he]
  exact fresh.id entry.2 (List.mem_map_of_mem he)

/-- A client that is fresh to a directory is put behind its clients. -/
theorem Consistent.all_restore {directory : Directory} (h : directory.Consistent)
    {record : ClientRecord} (fresh : Fresh record directory) :
    (directory.restore record).all = directory.all ++ [record] := by
  rw [all, h.records_restore fresh, List.map_append]
  rfl

/-- A directory stays consistent with a client that is fresh to it. -/
theorem Consistent.restore {directory : Directory} (h : directory.Consistent)
    {record : ClientRecord} (fresh : Fresh record directory) :
    (directory.restore record).Consistent where
  distinct := by
    rw [h.records_restore fresh, List.map_append, List.nodup_append]
    refine ⟨h.distinct, by simp, ?_⟩
    intro a ha b hb
    rw [← h.map_id] at ha
    obtain ⟨other, ho, rfl⟩ := List.mem_map.1 ha
    rw [List.mem_singleton.1 hb]
    exact fresh.id other ho
  keyed := by
    rw [h.records_restore fresh]
    intro entry he
    obtain he | he := List.mem_append.1 he
    · exact h.keyed entry he
    · rw [List.mem_singleton.1 he]
  named := by
    intro name id
    rw [h.all_restore fresh]
    -- the new name leads to the new client, which is the only one to have it
    simp only [Directory.restore, Table.find?_put, List.mem_append, List.mem_singleton]
    split
    · rename_i hn
      subst hn
      constructor
      · intro hid
        exact ⟨record, .inr rfl, rfl, Option.some.inj hid⟩
      · rintro ⟨other, ho | rfl, hn, rfl⟩
        · exact absurd hn (fresh.name other ho)
        · rfl
    · rename_i hn
      rw [h.named]
      constructor
      · rintro ⟨other, ho, rest⟩
        exact ⟨other, .inl ho, rest⟩
      · rintro ⟨other, ho | rfl, rest⟩
        · exact ⟨other, ho, rest⟩
        · exact absurd rest.1 hn

/-- A client is taken in only if its identifier and its name are new. -/
theorem Consistent.insert?_eq_some {directory directory' : Directory} (h : directory.Consistent)
    {id : ClientId} {name : String} {key : Bytes} {now : Timestamp}
    (hi : directory.insert? id name key now = .ok (some directory')) :
    Fresh ⟨id, name, key, now⟩ directory ∧ directory' = directory.restore ⟨id, name, key, now⟩ := by
  unfold insert? at hi
  cases checked : checkFields name key with
  | error e =>
    rw [checked] at hi
    cases hi
  | ok _ =>
    rw [checked] at hi
    simp only [bind, Except.bind] at hi
    split at hi
    · cases hi
    · rename_i free
      rw [Bool.or_eq_true, not_or, h.hasId_iff, h.hasName_iff] at free
      cases hi
      refine ⟨⟨?_, ?_⟩, rfl⟩
      · intro other ho same
        exact free.1 ⟨other, ho, same⟩
      · intro other ho same
        exact free.2 ⟨other, ho, same⟩

/-- The record of a client that was seen at a moment, if it is the client with the identifier. -/
def seenAt (id : ClientId) (moment : Timestamp) (record : ClientRecord) : ClientRecord :=
  if record.id = id then { record with lastSeen := moment } else record

/-- The identifier stays when a client is seen. -/
@[simp] theorem id_seenAt (id : ClientId) (moment : Timestamp) (record : ClientRecord) :
    (seenAt id moment record).id = record.id := by
  unfold seenAt
  split <;> rfl

/-- The name stays when a client is seen. -/
@[simp] theorem name_seenAt (id : ClientId) (moment : Timestamp) (record : ClientRecord) :
    (seenAt id moment record).name = record.name := by
  unfold seenAt
  split <;> rfl

/-- Noting that a client was seen changes its record alone. -/
theorem Consistent.see {directory directory' : Directory} (h : directory.Consistent)
    {id : ClientId} {moment before : Timestamp}
    (hs : directory.see? id moment = some (before, directory')) :
    (∃ record ∈ directory.all, record.id = id) ∧
      directory'.all = directory.all.map (seenAt id moment) ∧ directory'.Consistent := by
  unfold see? at hs
  rw [Option.map_eq_some_iff] at hs
  obtain ⟨record, found, same⟩ := hs
  cases same
  obtain ⟨hr, rfl⟩ := (h.find?_records id record).1 found
  have member : ∃ entry ∈ directory.records, entry.1 = record.id :=
    ⟨_, (Table.find?_eq_some_iff h.distinct _ _).1 found, rfl⟩
  have written := Table.put_of_mem h.distinct { record with lastSeen := moment } member
  -- a record is put where the old one was, the only one with its key
  have entries : directory.records.put record.id { record with lastSeen := moment }
      = directory.records.map fun entry => (entry.1, seenAt record.id moment entry.2) := by
    rw [written]
    apply List.map_congr_left
    intro entry he
    have keyed := h.keyed entry he
    unfold seenAt
    split
    · rename_i hk
      have own : entry.2 = record := by
        apply h.eq_of_id (List.mem_map_of_mem he) hr
        rw [keyed, hk]
      rw [if_pos (keyed.trans hk), own, hk]
    · rename_i hk
      rw [if_neg (fun e => hk (keyed.symm.trans e))]
  have listed : (Directory.mk (directory.records.put record.id
      { record with lastSeen := moment }) directory.names).all
      = directory.all.map (seenAt record.id moment) := by
    simp only [all, entries, List.map_map]
    rfl
  refine ⟨⟨record, hr, rfl⟩, listed, ?_⟩
  exact {
    distinct := by
      simp only [entries, List.map_map]
      exact h.distinct
    keyed := by
      simp only [entries]
      intro entry he
      obtain ⟨old, ho, rfl⟩ := List.mem_map.1 he
      rw [id_seenAt]
      exact h.keyed old ho
    named := by
      intro name id
      rw [listed]
      show directory.names.find? name = some id ↔ _
      rw [h.named]
      constructor
      · rintro ⟨old, ho, rfl, rfl⟩
        exact ⟨_, List.mem_map_of_mem ho, name_seenAt _ _ _, id_seenAt _ _ _⟩
      · rintro ⟨_, hm, rfl, rfl⟩
        obtain ⟨old, ho, rfl⟩ := List.mem_map.1 hm
        exact ⟨old, ho, (name_seenAt _ _ _).symm, (id_seenAt _ _ _).symm⟩ }

/-! ## Sorted clients -/

/-- Clients in the order of their names. -/
def arrange (records : List ClientRecord) : List ClientRecord :=
  records.mergeSort fun a b => Text.le a.name b.name

/-- The sorted clients of a directory are its clients, arranged. -/
theorem sorted_eq_arrange (directory : Directory) : directory.sorted = arrange directory.all := rfl

/-- Arranged records stand in the order of their names. -/
theorem pairwise_arrange (records : List ClientRecord) :
    (arrange records).Pairwise fun a b => Text.le a.name b.name := by
  apply List.pairwise_mergeSort
  · intro a b c
    exact Text.bytesLe_trans
  · intro a b
    exact Text.bytesLe_total _ _

/-- Arranging records neither loses nor adds any. -/
theorem perm_arrange (records : List ClientRecord) : (arrange records).Perm records :=
  List.mergeSort_perm _ _

/-- The clients of a consistent directory have one order by their names. -/
theorem Consistent.eq_arrange {directory : Directory} (h : directory.Consistent)
    {records : List ClientRecord} (ordered : records.Pairwise fun a b => Text.le a.name b.name)
    (perm : records.Perm directory.all) : records = directory.sorted := by
  have sorted := perm_arrange directory.all
  refine List.Perm.eq_of_pairwise ?_ ordered (pairwise_arrange directory.all)
    (perm.trans sorted.symm)
  intro a b ha hb hab hba
  exact h.eq_of_name (perm.mem_iff.1 ha) (sorted.mem_iff.1 hb) (Text.le_antisymm hab hba)

/-- A client that is fresh to a directory takes its place among the sorted ones. -/
theorem Consistent.sorted_restore {directory : Directory} (h : directory.Consistent)
    {record : ClientRecord} (fresh : Fresh record directory) :
    (directory.restore record).sorted = arrange (directory.sorted ++ [record]) := by
  symm
  apply (h.restore fresh).eq_arrange (pairwise_arrange _)
  rw [h.all_restore fresh]
  exact (perm_arrange _).trans ((perm_arrange directory.all).append_right [record])

/-- The sorted clients keep their places when one of them is seen. -/
theorem Consistent.sorted_see {directory directory' : Directory} (h : directory.Consistent)
    {id : ClientId} {moment before : Timestamp}
    (hs : directory.see? id moment = some (before, directory')) :
    directory'.sorted = directory.sorted.map (seenAt id moment) := by
  obtain ⟨-, listed, consistent⟩ := h.see hs
  symm
  apply consistent.eq_arrange
  · rw [List.pairwise_map]
    refine (pairwise_arrange directory.all).imp ?_
    intro a b hab
    rw [name_seenAt, name_seenAt]
    exact hab
  · rw [listed]
    exact (perm_arrange directory.all).map _

/-- Clients with distinct identifiers and names are all put back, in their order. -/
theorem consistent_foldl_restore (records : List ClientRecord) {directory : Directory}
    (h : directory.Consistent) (ids : ((directory.all ++ records).map (·.id)).Nodup)
    (names : ((directory.all ++ records).map (·.name)).Nodup) :
    (records.foldl (fun directory record => directory.restore record) directory).Consistent ∧
      (records.foldl (fun directory record => directory.restore record) directory).all
        = directory.all ++ records := by
  induction records generalizing directory with
  | nil => exact ⟨h, (List.append_nil _).symm⟩
  | cons record records ih =>
    have fresh : Fresh record directory := by
      constructor
      · intro other ho same
        rw [List.map_append, List.nodup_append] at ids
        exact ids.2.2 _ (List.mem_map_of_mem ho) _ (List.mem_map_of_mem List.mem_cons_self) same
      · intro other ho same
        rw [List.map_append, List.nodup_append] at names
        exact names.2.2 _ (List.mem_map_of_mem ho) _ (List.mem_map_of_mem List.mem_cons_self) same
    have shifted : (directory.restore record).all ++ records
        = directory.all ++ record :: records := by
      rw [h.all_restore fresh, List.append_assoc]
      rfl
    rw [List.foldl_cons, ← shifted]
    apply ih (h.restore fresh)
    · rw [shifted]
      exact ids
    · rw [shifted]
      exact names

/-- No identifier and no name stands among the sorted clients twice. -/
theorem Consistent.nodup_sorted {directory : Directory} (h : directory.Consistent) :
    (directory.sorted.map (·.id)).Nodup ∧ (directory.sorted.map (·.name)).Nodup := by
  have perm := perm_arrange directory.all
  have nodup : directory.sorted.Nodup := perm.symm.nodup h.nodup_all
  have member : ∀ {record}, record ∈ directory.sorted → record ∈ directory.all :=
    fun hr => perm.mem_iff.1 hr
  refine ⟨List.pairwise_map.2 (nodup.imp_of_mem ?_), List.pairwise_map.2 (nodup.imp_of_mem ?_)⟩
  · intro a b ha hb hne same
    exact hne (h.eq_of_id (member ha) (member hb) same)
  · intro a b ha hb hne same
    exact hne (h.eq_of_name (member ha) (member hb) same)

/-- A directory built from the sorted clients of a consistent one lists the same clients. -/
theorem Consistent.ofRecords_sorted {directory : Directory} (h : directory.Consistent) :
    (ofRecords directory.sorted).Consistent ∧
      (ofRecords directory.sorted).all = directory.sorted ∧
      (ofRecords directory.sorted).sorted = directory.sorted := by
  obtain ⟨ids, names⟩ := h.nodup_sorted
  obtain ⟨consistent, listed⟩ :=
    consistent_foldl_restore directory.sorted consistent_empty ids names
  refine ⟨consistent, listed, ?_⟩
  have same : (ofRecords directory.sorted).all = directory.sorted := listed
  rw [sorted_eq_arrange, same]
  exact List.mergeSort_of_pairwise (pairwise_arrange directory.all)

/-! ## Questions -/

/-- The sorted clients are those of the directory. -/
theorem mem_sorted (directory : Directory) (record : ClientRecord) :
    record ∈ directory.sorted ↔ record ∈ directory.all :=
  (perm_arrange directory.all).mem_iff

/-- Whether an identifier is taken can be told from the sorted clients. -/
theorem Consistent.hasId_eq {directory : Directory} (h : directory.Consistent) (id : ClientId) :
    directory.hasId id = directory.sorted.any fun record => record.id = id := by
  rw [Bool.eq_iff_iff, h.hasId_iff, List.any_eq_true]
  simp only [mem_sorted, decide_eq_true_eq]

/-- Whether a name is taken can be told from the sorted clients. -/
theorem Consistent.hasName_eq {directory : Directory} (h : directory.Consistent) (name : String) :
    directory.hasName name = directory.sorted.any fun record => record.name = name := by
  rw [Bool.eq_iff_iff, h.hasName_iff, List.any_eq_true]
  simp only [mem_sorted, decide_eq_true_eq]

/-- The client with a name is the only one among the sorted clients that has it. -/
theorem Consistent.find?_sorted {directory : Directory} (h : directory.Consistent)
    {record : ClientRecord} (hr : record ∈ directory.all) :
    directory.sorted.find? (fun other => other.name = record.name) = some record := by
  cases found : directory.sorted.find? fun other => decide (other.name = record.name) with
  | none =>
    have absent := List.find?_eq_none.1 found record ((directory.mem_sorted record).2 hr)
    simp at absent
  | some other =>
    have same : other.name = record.name := by simpa using List.find?_some found
    have present := (directory.mem_sorted other).1 (List.mem_of_find?_eq_some found)
    rw [h.eq_of_name present hr same]

/-- The identifier under a name can be told from the sorted clients. -/
theorem Consistent.idOf?_eq {directory : Directory} (h : directory.Consistent) (name : String) :
    directory.idOf? name
      = (directory.sorted.find? fun record => record.name = name).map (·.id) := by
  cases found : directory.idOf? name with
  | some id =>
    obtain ⟨record, hr, rfl, rfl⟩ := (h.named name id).1 found
    rw [h.find?_sorted hr]
    rfl
  | none =>
    symm
    rw [Option.map_eq_none_iff, List.find?_eq_none]
    intro record hr named
    have listed := (directory.mem_sorted record).1 hr
    have known := (h.named name record.id).2 ⟨record, listed, by simpa using named, rfl⟩
    rw [idOf?, known] at found
    cases found

/-- The key under a name can be told from the sorted clients. -/
theorem Consistent.keyOf?_eq {directory : Directory} (h : directory.Consistent) (name : String) :
    directory.keyOf? name
      = (directory.sorted.find? fun record => record.name = name).map (·.publicKey) := by
  rw [keyOf?, h.idOf?_eq]
  cases found : directory.sorted.find? fun record => decide (record.name = name) with
  | none => rfl
  | some record =>
    have listed := (directory.mem_sorted record).1 (List.mem_of_find?_eq_some found)
    rw [Option.map_some, Option.bind_some, (h.find?_records record.id record).2 ⟨listed, rfl⟩]

/-- Whether a client is taken in depends on the fields and on the sorted clients. -/
theorem Consistent.insert?_eq {directory : Directory} (h : directory.Consistent) (id : ClientId)
    (name : String) (key : Bytes) (now : Timestamp) :
    directory.insert? id name key now = (checkFields name key).map fun _ =>
      if (directory.sorted.any fun record => record.id = id)
          || directory.sorted.any fun record => record.name = name then none
      else some (directory.restore ⟨id, name, key, now⟩) := by
  rw [insert?, h.hasId_eq, h.hasName_eq]
  cases checkFields name key with
  | error e => rfl
  | ok _ =>
    simp only [bind, Except.bind, Except.map]
    split <;> rfl

/-- A client can be seen exactly if it is among the sorted ones. -/
theorem Consistent.isSome_see? {directory : Directory} (h : directory.Consistent) (id : ClientId)
    (moment : Timestamp) :
    (directory.see? id moment).isSome = directory.sorted.any fun record => record.id = id := by
  rw [← h.hasId_eq, see?, Option.isSome_map]
  rfl

end Directory

end Store

end MessageRelay
