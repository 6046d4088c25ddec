import Mathlib.Data.List.Induction
import MessageRelay.Proofs.Store.DirectoryOrder

/-!
# The directory of any records

A directory can be built from records that its operations would never have left: with one identifier
or one name in several of them, or with fields that no client may have. Later records then take the
place of earlier ones, under their identifiers and under their names apart from each other, so that a
name can lead to a client that has another name by now. `loaded_ofRecords` says which clients such a
directory lists and where its names lead, and when the two agree.
-/

set_option autoImplicit false

namespace MessageRelay

/-! ## The latest items -/

section

variable {α β γ : Type}

/-- Whether an item stands in a list with no item behind it that has the same key. -/
def Latest (key : α → β) (items : List α) (item : α) : Prop :=
  ∃ before after, items = before ++ item :: after ∧ ∀ other ∈ after, key other ≠ key item

/-- An item behind others is the latest one with its key, and takes this place from any other. -/
theorem latest_snoc_iff {key : α → β} {items : List α} {last item : α} :
    Latest key (items ++ [last]) item ↔
      item = last ∨ Latest key items item ∧ key item ≠ key last := by
  constructor
  · rintro ⟨before, after, same, fresh⟩
    obtain rfl | ⟨rest, other, rfl⟩ := List.eq_nil_or_concat after
    · exact .inl (List.append_inj_right' same rfl |> List.singleton_inj.1).symm
    · rw [List.concat_eq_append, ← List.cons_append, ← List.append_assoc] at same
      obtain rfl : last = other := List.singleton_inj.1 (List.append_inj_right' same rfl)
      refine .inr ⟨⟨before, rest, List.append_inj_left' same rfl, fun other listed => ?_⟩, ?_⟩
      · exact fresh other (by simp [listed])
      · exact (fresh last (by simp)).symm
  · rintro (rfl | ⟨⟨before, after, rfl, fresh⟩, differs⟩)
    · exact ⟨items, [], rfl, by simp⟩
    · refine ⟨before, after ++ [last], by simp, fun other listed => ?_⟩
      obtain listed | listed := List.mem_append.1 listed
      · exact fresh other listed
      · rw [List.mem_singleton.1 listed]
        exact differs.symm

/-- Every item is followed by the latest with its key, or is that itself. -/
theorem exists_latest (key : α → β) {items : List α} {item : α} (h : item ∈ items) :
    ∃ other, Latest key items other ∧ key other = key item := by
  induction items using List.reverseRecOn with
  | nil => cases h
  | append_singleton items last ih =>
    by_cases same : key item = key last
    · exact ⟨last, latest_snoc_iff.2 (.inl rfl), same.symm⟩
    · obtain listed | listed := List.mem_append.1 h
      · obtain ⟨other, latest, key_⟩ := ih listed
        exact ⟨other, latest_snoc_iff.2 (.inr ⟨latest, key_ ▸ same⟩), key_⟩
      · rw [List.mem_singleton.1 listed] at same
        exact absurd rfl same

/-- The latest item with its key is in the list. -/
theorem Latest.mem {key : α → β} {items : List α} {item : α} (h : Latest key items item) :
    item ∈ items := by
  obtain ⟨before, after, rfl, -⟩ := h
  simp

/-- Where no two items have one key, each is the latest with its own. -/
theorem latest_iff_mem_of_nodup {key : α → β} {items : List α} {item : α}
    (distinct : (items.map key).Nodup) : Latest key items item ↔ item ∈ items := by
  refine ⟨Latest.mem, fun listed => ?_⟩
  obtain ⟨before, after, rfl⟩ := List.append_of_mem listed
  rw [List.map_append, List.map_cons, List.nodup_append, List.nodup_cons] at distinct
  refine ⟨before, after, rfl, fun other behind same => ?_⟩
  exact distinct.2.1.1 (same ▸ List.mem_map_of_mem behind)

/-- Two items that are the latest, each for one of two keys, are one if they share both keys. -/
theorem Latest.eq_of_keys {first : α → β} {second : α → γ} {items : List α} {a b : α}
    (ha : Latest first items a) (hb : Latest second items b) (same : first a = first b)
    (same' : second a = second b) : a = b := by
  induction items using List.reverseRecOn with
  | nil => cases ha.mem
  | append_singleton items last ih =>
    obtain rfl | ⟨ha, differs⟩ := latest_snoc_iff.1 ha
    · obtain rfl | ⟨-, differs⟩ := latest_snoc_iff.1 hb
      · rfl
      · exact absurd same'.symm differs
    · obtain rfl | ⟨hb, -⟩ := latest_snoc_iff.1 hb
      · exact absurd same differs
      · exact ih ha hb

end

/-! ## Tables -/

/-- Putting a value under a key leaves the keys of a table distinct. -/
theorem Table.nodup_put {κ α : Type} [DecidableEq κ] {table : Table κ α}
    (distinct : (table.map (·.1)).Nodup) (key : κ) (value : α) :
    ((table.put key value).map (·.1)).Nodup := by
  by_cases present : ∃ entry ∈ table, entry.1 = key
  · have keys : ((fun entry : κ × α => entry.1) ∘ fun entry =>
        if entry.1 = key then (key, value) else entry) = fun entry => entry.1 := by
      funext entry
      simp only [Function.comp_apply]
      split
      · exact ‹entry.1 = key›.symm
      · rfl
    rw [Table.put_of_mem distinct value present, List.map_map, keys]
    exact distinct
  · have absent : ∀ entry ∈ table, entry.1 ≠ key := fun entry listed same =>
      present ⟨entry, listed, same⟩
    rw [Table.put_of_find?_eq_none value ((Table.find?_eq_none_iff table key).2 absent),
      List.map_append, List.nodup_append]
    refine ⟨distinct, by simp, ?_⟩
    intro other listed key' single
    obtain ⟨entry, stored, rfl⟩ := List.mem_map.1 listed
    rw [List.mem_singleton.1 single]
    exact absent entry stored

/-! ## Records -/

namespace Store.Directory

open Protocol (ClientId)

variable {records : List ClientRecord}

/-- A record behind others is put into the directory that they make up. -/
theorem ofRecords_snoc (records : List ClientRecord) (record : ClientRecord) :
    ofRecords (records ++ [record]) = (ofRecords records).restore record := by
  rw [ofRecords, List.foldl_append]
  rfl

/-- However often an identifier is repeated, it stands in the directory once. -/
theorem distinct_ofRecords : ((ofRecords records).records.map (·.1)).Nodup := by
  induction records using List.reverseRecOn with
  | nil => exact List.nodup_nil
  | append_singleton records record ih =>
    rw [ofRecords_snoc]
    exact Table.nodup_put ih _ _

/-- The client under an identifier is the latest record with it. -/
theorem find?_ofRecords {id : ClientId} {record : ClientRecord} :
    (ofRecords records).records.find? id = some record ↔
      Latest (·.id) records record ∧ record.id = id := by
  induction records using List.reverseRecOn with
  | nil => exact iff_of_false (by simp [ofRecords, empty]) fun latest => nomatch latest.1.mem
  | append_singleton records last ih =>
    rw [ofRecords_snoc, latest_snoc_iff]
    simp only [restore, Table.find?_put]
    split
    · rename_i own
      rw [Option.some.injEq]
      constructor
      · rintro rfl
        exact ⟨.inl rfl, own⟩
      · rintro ⟨rfl | ⟨-, differs⟩, own'⟩
        · rfl
        · exact absurd (own'.trans own.symm) differs
    · rename_i other
      rw [ih]
      constructor
      · rintro ⟨latest, rfl⟩
        exact ⟨.inr ⟨latest, Ne.symm other⟩, rfl⟩
      · rintro ⟨rfl | ⟨latest, -⟩, own⟩
        · exact absurd own other
        · exact ⟨latest, own⟩

/-- A name leads to the identifier in the latest record with it. -/
theorem idOf?_ofRecords {name : String} {id : ClientId} :
    (ofRecords records).idOf? name = some id ↔
      ∃ record, Latest (·.name) records record ∧ record.name = name ∧ record.id = id := by
  induction records using List.reverseRecOn with
  | nil => exact iff_of_false (by simp [ofRecords, idOf?, empty]) fun ⟨_, latest, _⟩ => nomatch latest.mem
  | append_singleton records last ih =>
    rw [ofRecords_snoc]
    simp only [latest_snoc_iff]
    unfold idOf? at ih ⊢
    simp only [restore, Table.find?_put]
    split
    · rename_i own
      rw [Option.some.injEq]
      constructor
      · rintro rfl
        exact ⟨last, .inl rfl, own, rfl⟩
      · rintro ⟨record, rfl | ⟨-, differs⟩, own', rfl⟩
        · rfl
        · exact absurd (own'.trans own.symm) differs
    · rename_i other
      rw [ih]
      constructor
      · rintro ⟨record, latest, rfl, rfl⟩
        exact ⟨record, .inr ⟨latest, Ne.symm other⟩, rfl, rfl⟩
      · rintro ⟨record, rfl | ⟨latest, -⟩, own, rfl⟩
        · exact absurd own other
        · exact ⟨record, latest, own, rfl⟩

/-- The clients of the directory are the latest records with their identifiers. -/
theorem mem_sorted_ofRecords {record : ClientRecord} :
    record ∈ (ofRecords records).sorted ↔ Latest (·.id) records record := by
  rw [mem_sorted, all, List.mem_map]
  constructor
  · rintro ⟨⟨id, record⟩, listed, rfl⟩
    exact (find?_ofRecords.1 ((Table.find?_eq_some_iff distinct_ofRecords _ _).2 listed)).1
  · intro latest
    have found := find?_ofRecords.2 ⟨latest, rfl⟩
    exact ⟨_, (Table.find?_eq_some_iff distinct_ofRecords _ _).1 found, rfl⟩

/-- Names lead to the clients that have them exactly if the latest records under identifiers and
under names are the same. -/
theorem names_agree_iff :
    (∀ name id, (ofRecords records).idOf? name = some id ↔
        ∃ record ∈ (ofRecords records).sorted, record.id = id ∧ record.name = name) ↔
      ∀ record, Latest (·.id) records record ↔ Latest (·.name) records record := by
  simp only [idOf?_ofRecords, mem_sorted_ofRecords]
  constructor
  · intro agree record
    constructor
    · intro latest
      obtain ⟨other, latest', name, id⟩ :=
        (agree record.name record.id).2 ⟨record, latest, rfl, rfl⟩
      rw [latest.eq_of_keys latest' id.symm name.symm]
      exact latest'
    · intro latest
      obtain ⟨other, latest', id, name⟩ :=
        (agree record.name record.id).1 ⟨record, latest, rfl, rfl⟩
      rw [← latest'.eq_of_keys latest id name]
      exact latest'
  · intro same name id
    constructor
    · rintro ⟨record, latest, rfl, rfl⟩
      exact ⟨record, (same record).2 latest, rfl, rfl⟩
    · rintro ⟨record, latest, rfl, rfl⟩
      exact ⟨record, (same record).1 latest, rfl, rfl⟩

/-- What a directory is that was put together from records. -/
structure Loaded (records : List ClientRecord) (directory : Directory) : Prop where
  /-- The clients are the latest records under their identifiers. -/
  listed : ∀ record, record ∈ directory.sorted ↔ Latest (·.id) records record
  ids : (directory.sorted.map (·.id)).Nodup
  /-- A name leads to the identifier in the latest record under it, -/
  named : ∀ name id, directory.idOf? name = some id ↔
    ∃ record, Latest (·.name) records record ∧ record.name = name ∧ record.id = id
  /-- which is that of a client, whose key stands under the name, whatever its own name is. -/
  keyed : ∀ name id, directory.idOf? name = some id →
    ∃ record ∈ directory.sorted, record.id = id ∧ directory.keyOf? name = some record.publicKey
  unknown : ∀ name, directory.idOf? name = none → directory.keyOf? name = none
  /-- Names lead to the clients that have them exactly if the latest records under identifiers and
  under names are the same. -/
  agrees : (∀ name id, directory.idOf? name = some id ↔
      ∃ record ∈ directory.sorted, record.id = id ∧ record.name = name) ↔
    ∀ record, Latest (·.id) records record ↔ Latest (·.name) records record
  /-- So they do if no two records have one identifier or one name. -/
  plain : (records.map (·.id)).Nodup → (records.map (·.name)).Nodup →
    ∀ name id, directory.idOf? name = some id ↔
      ∃ record ∈ directory.sorted, record.id = id ∧ record.name = name
  /-- The wire can carry all clients exactly if it can carry these records. -/
  fits : (∀ record ∈ directory.sorted, checkFields record.name record.publicKey = .ok ()) ↔
    ∀ record, Latest (·.id) records record → checkFields record.name record.publicKey = .ok ()

/-- What is put together from records is a loaded directory. -/
theorem loaded_ofRecords (records : List ClientRecord) : (ofRecords records).Loaded records where
  listed _ := mem_sorted_ofRecords
  ids := by
    have keys : (ofRecords records).all.map (·.id) = (ofRecords records).records.map (·.1) := by
      rw [all, List.map_map]
      refine List.map_congr_left fun entry stored => ?_
      exact (find?_ofRecords.1 ((Table.find?_eq_some_iff distinct_ofRecords _ _).2 stored)).2
    refine ((perm_arrange (ofRecords records).all).map _).nodup_iff.2 ?_
    rw [keys]
    exact distinct_ofRecords
  named _ _ := idOf?_ofRecords
  keyed name id led := by
    obtain ⟨named, latest, -, rfl⟩ := idOf?_ofRecords.1 led
    obtain ⟨record, latest, own⟩ := exists_latest (·.id) latest.mem
    refine ⟨record, mem_sorted_ofRecords.2 latest, own, ?_⟩
    rw [keyOf?, led, Option.bind_some, find?_ofRecords.2 ⟨latest, own⟩, Option.map_some]
  unknown name nowhere := by
    rw [keyOf?, nowhere, Option.bind_none]
  agrees := names_agree_iff
  plain ids names := by
    refine names_agree_iff.2 fun record => ?_
    rw [latest_iff_mem_of_nodup ids, latest_iff_mem_of_nodup names]
  fits := by
    simp only [mem_sorted_ofRecords]

end Store.Directory

end MessageRelay
