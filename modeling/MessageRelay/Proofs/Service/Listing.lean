import Mathlib.Data.List.Nodup
import MessageRelay.Proofs.Protocol.FieldReading
import MessageRelay.Proofs.Protocol.ResponseRoundTrip
import MessageRelay.Proofs.Service.Handling
import MessageRelay.Proofs.Store.Roll
import MessageRelay.Proofs.Text.DecimalRoundTrip

/-!
# Clients that the wire carries

What a store asks of the name and the key of a new client is what lets a registration come back from
its bytes, as long as the name has no zero byte (`Request.returns_register_iff`). So the list of the
clients of a store is read from its bytes with the names that are stored, whenever its size field can
state how long it is (`store_admits_what_wire_carries`). Names with zero bytes and stores with
millions of clients are beyond that (`store_admits_more`).
-/

set_option autoImplicit false

namespace MessageRelay

open Protocol
open Store

/-! ## Registrations -/

namespace Protocol.Request

/-- Whether a request of a sender is written, and read from its body as it was. -/
def Returns (sender : ClientId) (request : Request) : Prop :=
  ∃ encoded, request.encode sender = .ok encoded ∧
    decodeBody request.code (encoded.drop requestHeaderSize) = .ok request

/-- A request comes back from its bytes exactly if its fields fit and its name has no zero byte. -/
theorem returns_iff {sender : ClientId} {request : Request} :
    request.Returns sender ↔ request.Fits ∧ request.HasPlainName := by
  have read {encoded : Bytes} (h : request.encode sender = .ok encoded) :
      decodeBody request.code (encoded.drop requestHeaderSize) = request.asRead := by
    obtain ⟨body, written, -, rfl⟩ := encode_eq_header h
    have whole := decodeBody_eq_asRead written []
    rwa [← (request.header sender).length_encode, List.drop_left, ← List.append_nil body]
  unfold Returns
  constructor
  · rintro ⟨encoded, written, back⟩
    rw [read written, asRead_eq_ok_iff] at back
    exact ⟨exists_encode_iff_fits.1 ⟨encoded, written⟩, back⟩
  · rintro ⟨fits, plain⟩
    obtain ⟨encoded, written⟩ : ∃ encoded, request.encode sender = .ok encoded :=
      exists_encode_iff_fits.2 fits
    exact ⟨encoded, written, (read written).trans (asRead_eq_ok_iff.2 plain)⟩

/-- A registration comes back from its bytes exactly if a store takes in its fields and its name has
no zero byte. -/
theorem returns_register_iff {sender : ClientId} {name : String} {key : Bytes} :
    (register name key).Returns sender ↔
      Directory.checkFields name key = .ok () ∧ 0 ∉ Text.utf8 name := by
  rw [returns_iff, Directory.checkFields_eq_ok_iff, Fits, HasPlainName]
  tauto

end Protocol.Request

namespace Service

/-! ## The list -/

/-- What a sender is told of the clients of a store. -/
def listing (sender : ClientId) (store : Backend) : List ClientEntry :=
  (store.directory.sorted.filter fun record => record.id ≠ sender).map fun record =>
    { id := record.id, name := record.name }

/-- A list of clients states the identifiers and the names of the clients of a store other than one,
and each of these once. -/
structure Lists (sender : ClientId) (store : Backend) (entries : List ClientEntry) : Prop where
  mem_iff : ∀ entry, entry ∈ entries ↔ entry.id ≠ sender ∧
    ∃ record ∈ store.directory.sorted, record.id = entry.id ∧ record.name = entry.name
  ids : (entries.map (·.id)).Nodup
  names : (entries.map (·.name)).Nodup

variable {store : Backend} {roll : List Registration}

/-- Asking for the list gives the clients of the store but the sender, tells how many these are, and
leaves the store as it is. -/
theorem Handler.run_listClients (occasion : Occasion) (store : Backend) :
    (listClients occasion).run store
      = ⟨.ok { response := .clientsList (listing occasion.sender store), delivered := [] }, store,
          [.debug (s!"Listing {(listing occasion.sender store).length} clients for "
            ++ s!"{occasion.sender.text}")]⟩ := by
  simp only [listClients, Action.run_bind, storing, Action.run_mapError, Backend.run_clients,
    mapError_ok, Action.run_tell, Action.run_pure, listing, List.length_map, List.nil_append,
    List.append_nil, String.append_assoc]

/-- The list has an entry for each client of the store but the sender. -/
theorem mem_listing_iff {sender : ClientId} {entry : ClientEntry} :
    entry ∈ listing sender store ↔ entry.id ≠ sender ∧
      ∃ record ∈ store.directory.sorted, record.id = entry.id ∧ record.name = entry.name := by
  simp only [listing, List.mem_map, List.mem_filter, decide_eq_true_eq]
  constructor
  · rintro ⟨record, ⟨listed, other⟩, rfl⟩
    exact ⟨other, record, listed, rfl, rfl⟩
  · rintro ⟨other, record, listed, id, name⟩
    exact ⟨record, ⟨listed, id ▸ other⟩, by rw [id, name]⟩

/-- The identifiers in the list are all of them but the sender's. -/
theorem map_id_listing (consistent : store.directory.Consistent) (sender : ClientId) :
    (listing sender store).map (·.id) = (store.directory.sorted.map (·.id)).erase sender := by
  rw [consistent.nodup_sorted.1.erase_eq_filter, List.filter_map, listing, List.map_map]
  exact congrArg _ (List.filter_congr fun record _ => decide_not.trans rfl)

/-- In a consistent directory the list states every other client once. -/
theorem lists_listing (consistent : store.directory.Consistent) (sender : ClientId) :
    Lists sender store (listing sender store) where
  mem_iff _ := mem_listing_iff
  ids := by
    rw [map_id_listing consistent]
    exact consistent.nodup_sorted.1.erase sender
  names := by
    rw [listing, List.map_map]
    exact consistent.nodup_sorted.2.sublist (List.filter_sublist.map _)

/-- A list without zero bytes in its names is read back from its bytes, and has any if its size field
can state how long it is. -/
theorem listing_on_wire (enrols : store.Enrols roll)
    (plain : ∀ record ∈ store.directory.sorted, 0 ∉ Text.utf8 record.name) (sender : ClientId) :
    ((∃ message, (Response.clientsList (listing sender store)).encode = .ok message)
        ↔ (listing sender store).length * clientEntrySize < 4294967296) ∧
      ∀ message, (Response.clientsList (listing sender store)).encode = .ok message →
        ∃ header, Response.decodeWhole message
          = .ok (header, .clientsList (listing sender store)) := by
  constructor
  · refine Response.exists_encode_clientsList_iff fun entry listed => ?_
    obtain ⟨-, record, stored, -, name⟩ := mem_listing_iff.1 listed
    have enrolled := (enrols.mem_iff (.of record)).2
      ⟨record, (Directory.mem_sorted _ _).1 stored, rfl⟩
    rw [← name]
    exact (Directory.checkFields_eq_ok_iff.1 (enrols.fits _ enrolled)).2.1
  · intro message written
    refine Response.decodeWhole_of_encode written fun entry listed => ?_
    obtain ⟨-, record, stored, -, name⟩ := mem_listing_iff.1 listed
    rw [← name]
    exact plain record stored

/-! ## Stores with many clients -/

/-- A client made up from a number, which is both its identifier and its name. -/
def numbered (k : Nat) : Registration where
  id := .ofBytes (Bytes.ofNat clientIdSize k)
  name := .ofList (Text.decimalOfWidth 8 k)
  key := List.replicate publicKeySize 0

/-- Clients made up from different numbers have different identifiers. -/
theorem numbered_id_injective {j k : Nat} (hj : j < 100000000) (hk : k < 100000000)
    (same : (numbered j).id = (numbered k).id) : j = k := by
  have read {n : Nat} (h : n < 100000000) : Bytes.toNat (numbered n).id.bytes = n := by
    have width := Bytes.length_ofNat clientIdSize n
    rw [numbered, ClientId.bytes_ofBytes (Nat.le_of_eq width.symm),
      List.take_of_length_le (Nat.le_of_eq width)]
    exact Bytes.toNat_ofNat _ _ (Nat.lt_trans h (by decide))
  rw [← read hj, same, read hk]

/-- Clients made up from different numbers have different names. -/
theorem numbered_name_injective {j k : Nat} (same : (numbered j).name = (numbered k).name) :
    j = k := by
  have digits : Text.decimalOfWidth 8 j = Text.decimalOfWidth 8 k := by
    have lists := congrArg String.toList same
    rwa [numbered, numbered, String.toList_ofList, String.toList_ofList] at lists
  have read := Text.digits?_decimalOfWidth 8 j
  rw [digits, Text.digits?_decimalOfWidth] at read
  exact (Option.some.inj read).symm

/-- A client made up from a number of at most eight digits has fields that a store takes in, and a
name without zero bytes. -/
theorem fits_numbered {k : Nat} (h : k < 100000000) :
    Directory.checkFields (numbered k).name (numbered k).key = .ok () ∧
      0 ∉ Text.utf8 (numbered k).name := by
  have digit {c : Char} (listed : c ∈ Text.decimalOfWidth 8 k) :
      48 ≤ c.toNat ∧ c.toNat ≤ 57 := by
    simpa [Text.isDigit] using Text.isDigit_of_mem_decimalOfWidth listed
  have length : (Text.utf8 (numbered k).name).length = 8 := by
    rw [numbered, Text.length_utf8_of_ascii, Text.length_decimalOfWidth (by decide) h]
    intro c listed
    have small := (digit listed).2
    show c.val.toNat ≤ 127
    exact Nat.le_trans small (by decide)
  constructor
  · rw [Directory.checkFields_eq_ok_iff, length, Ne, ← Text.length_utf8_eq_zero_iff, length]
    exact ⟨by decide, by decide, List.length_replicate⟩
  · rw [numbered, Text.zero_mem_utf8_iff]
    intro zero
    exact absurd (digit zero).1 (by decide)

/-- A store can have so many clients that no response states the list of them. -/
theorem exists_unlistable (now : Timestamp) : ∃ store : Backend, store.Reached ∧
    (∀ record ∈ store.directory.sorted, 0 ∉ Text.utf8 record.name) ∧
      ∀ sender message, (Response.clientsList (listing sender store)).encode ≠ .ok message := by
  let roll := (List.range 15848589).map numbered
  have small {entry : Registration} (listed : entry ∈ roll) :
      ∃ k < 100000000, numbered k = entry := by
    obtain ⟨k, bound, rfl⟩ := List.mem_map.1 listed
    exact ⟨k, Nat.lt_trans (List.mem_range.1 bound) (by decide), rfl⟩
  have ids : (roll.map (·.id)).Nodup := by
    rw [List.map_map]
    refine List.Nodup.map_on ?_ List.nodup_range
    intro j hj k hk same
    rw [List.mem_range] at hj hk
    exact numbered_id_injective (Nat.lt_trans hj (by decide)) (Nat.lt_trans hk (by decide)) same
  have names : (roll.map (·.name)).Nodup := by
    rw [List.map_map]
    exact List.Nodup.map (fun _ _ => numbered_name_injective) List.nodup_range
  have fits : ∀ entry ∈ roll, Directory.checkFields entry.name entry.key = .ok () := by
    intro entry listed
    obtain ⟨k, bound, rfl⟩ := small listed
    exact (fits_numbered bound).1
  obtain ⟨volatile, reached, enrols⟩ := Backend.exists_enrols now ids names fits
  have plain : ∀ record ∈ (Backend.memory volatile).directory.sorted,
      0 ∉ Text.utf8 record.name := by
    intro record stored
    obtain ⟨k, bound, same⟩ := small ((enrols.mem_iff (.of record)).2
      ⟨record, (Directory.mem_sorted _ _).1 stored, rfl⟩)
    have name : (numbered k).name = record.name := congrArg Registration.name same
    rw [← name]
    exact (fits_numbered bound).2
  refine ⟨_, reached, plain, fun sender message written => ?_⟩
  have short := (listing_on_wire enrols plain sender).1.1 ⟨message, written⟩
  have stored : (Backend.memory volatile).directory.sorted.length = 15848589 := by
    rw [Directory.sorted_eq_arrange, (Directory.perm_arrange _).length_eq,
      ← List.length_map Registration.of,
      enrols.listed.length_eq, List.length_map, List.length_range]
  have others := congrArg List.length (map_id_listing enrols.consistent sender)
  rw [List.length_map, List.length_erase, List.length_map, stored] at others
  have width : clientEntrySize = 271 := rfl
  rw [width] at short
  split at others <;> omega

/-! ## Over every store -/

/-- A store takes in the clients whose registrations come back from their bytes, as far as names
without zero bytes go, and lists them by their own names in any response that has an encoding. -/
theorem store_admits_what_wire_carries :
    (∀ (sender : ClientId) (name : String) (key : Bytes), (Request.register name key).Returns sender ↔
      Directory.checkFields name key = .ok () ∧ 0 ∉ Text.utf8 name) ∧
    (∀ (store : Backend) (id : ClientId) (name : String), store.directory.hasId id = false →
      store.directory.hasName name = false → ∀ (key : Bytes) (now : Timestamp),
        let result := ((RelayStore.insertClient id name key now).run store).result
        (result = .ok true → Directory.checkFields name key = .ok ()) ∧
          (Directory.checkFields name key = .ok () → result = .ok true ∨
            store.snapshotFaults.head? = some true ∧ ∃ e, result = .error e)) ∧
    ∀ store : Backend, store.Reached →
      (∀ record ∈ store.directory.sorted, 0 ∉ Text.utf8 record.name) → ∀ occasion : Occasion,
        ∃ entries, (Handler.listClients occasion).run store
            = ⟨.ok { response := .clientsList entries, delivered := [] }, store,
                [.debug s!"Listing {entries.length} clients for {occasion.sender.text}"]⟩ ∧
          Lists occasion.sender store entries ∧
          ((∃ message, (Response.clientsList entries).encode = .ok message)
            ↔ entries.length * clientEntrySize < 4294967296) ∧
          ∀ message, (Response.clientsList entries).encode = .ok message →
            ∃ header, Response.decodeWhole message = .ok (header, .clientsList entries) := by
  refine ⟨fun _ _ _ => Request.returns_register_iff,
    fun _ _ _ freeId freeName => Backend.insertClient_of_free freeId freeName, ?_⟩
  intro store reached plain occasion
  obtain ⟨roll, enrols⟩ := reached.enrols
  exact ⟨_, Handler.run_listClients occasion store, lists_listing enrols.consistent _,
    listing_on_wire enrols plain _⟩

/-- A moment at which clients are taken in. -/
def morning : Timestamp :=
  ⟨⟨2026, 9, 14, by decide⟩, 7, 40, 0, 0, by decide⟩

/-- The store after a client with a name was taken in, the identifier and the key of which are made
of one byte. -/
def joined (n : UInt8) (name : String) (store : Backend) : Backend :=
  (((StoreCall.insertClient (.ofBytes [n]) name (List.replicate publicKeySize n)).perform
    morning).run store).state

/-- A store that is reached stays one when a client joins. -/
theorem reached_joined (n : UInt8) (name : String) (reached : store.Reached) :
    (joined n name store).Reached :=
  reached.call _ _

/-- A client comes back from its registration, is taken in beside another one, and both are listed
under their own names. -/
theorem store_admits_what_wire_carries_two :
    let key : Bytes := List.replicate publicKeySize 2
    let store := joined 1 "a" (.memory .empty)
    let entries : List ClientEntry := [⟨.ofBytes [1], "a"⟩, ⟨.ofBytes [2], "b"⟩]
    (Request.register "b" key).Returns (.ofBytes [2]) ∧
    ((RelayStore.insertClient (.ofBytes [2]) "b" key morning).run store).result = .ok true ∧
    Lists .unregistered (joined 2 "b" store) entries ∧
    ∃ message, (Response.clientsList entries).encode = .ok message ∧
      ∃ header, Response.decodeWhole message = .ok (header, .clientsList entries) := by
  intro key store entries
  obtain ⟨returns, admits, lists⟩ := store_admits_what_wire_carries
  have fits : Directory.checkFields "b" key = .ok () := by decide +kernel
  refine ⟨(returns _ "b" key).2 ⟨fits, by decide⟩, ?_, ?_⟩
  · have freeId : store.directory.hasId (.ofBytes [2]) = false := by decide +kernel
    have freeName : store.directory.hasName "b" = false := by decide +kernel
    obtain accepted | ⟨fault, -⟩ := (admits store _ "b" freeId freeName key morning).2 fits
    · exact accepted
    · exact absurd fault (by decide +kernel)
  · have reached : (joined 2 "b" store).Reached :=
      reached_joined _ _ (reached_joined _ _ (.fresh .memory))
    have ordered : (joined 2 "b" store).directory.sorted = (joined 2 "b" store).directory.all :=
      List.mergeSort_of_pairwise (by decide +kernel)
    have plain : ∀ record ∈ (joined 2 "b" store).directory.sorted, 0 ∉ Text.utf8 record.name := by
      rw [ordered]
      decide +kernel
    have listed : listing .unregistered (joined 2 "b" store) = entries := by
      rw [listing, ordered]
      decide +kernel
    obtain ⟨told, run, same, written, read⟩ :=
      lists (joined 2 "b" store) reached plain ⟨.unregistered, morning, []⟩
    rw [Handler.run_listClients, listed] at run
    cases run
    obtain ⟨message, encoded⟩ := written.2 (by decide)
    exact ⟨same, message, encoded, read message encoded⟩

/-- A store takes in a client whose registration does not come back from its bytes, lists two clients
of different names under one, and takes in more clients than a response can list. -/
theorem store_admits_more :
    (Directory.checkFields "a\x00b" (List.replicate publicKeySize 1) = .ok () ∧
      ∀ sender, ¬ (Request.register "a\x00b" (List.replicate publicKeySize 1)).Returns sender) ∧
    (∃ store : Backend, store.Reached ∧ ∃ (first second : ClientId) (header : ResponseHeader),
      listing .unregistered store = [⟨first, "a\x00b"⟩, ⟨second, "a\x00c"⟩] ∧
      (Response.clientsList (listing .unregistered store)).encode >>= Response.decodeWhole
        = .ok (header, .clientsList [⟨first, "a"⟩, ⟨second, "a"⟩])) ∧
    ∃ store : Backend, store.Reached ∧
      (∀ record ∈ store.directory.sorted, 0 ∉ Text.utf8 record.name) ∧
        ∀ sender message, (Response.clientsList (listing sender store)).encode ≠ .ok message := by
  refine ⟨⟨by decide +kernel, fun sender returns => ?_⟩, ?_, exists_unlistable morning⟩
  · exact absurd (Request.returns_register_iff.1 returns).2 (by decide)
  · let store := joined 2 "a\x00c" (joined 1 "a\x00b" (.memory .empty))
    have ordered : store.directory.sorted = store.directory.all :=
      List.mergeSort_of_pairwise (by decide +kernel)
    have told : listing .unregistered store
        = [⟨.ofBytes [1], "a\x00b"⟩, ⟨.ofBytes [2], "a\x00c"⟩] := by
      rw [listing, ordered]
      decide +kernel
    refine ⟨store, reached_joined _ _ (reached_joined _ _ (.fresh .memory)), _, _,
      ⟨serverVersion, .clientsList, 542⟩, told, ?_⟩
    rw [told]
    decide +kernel

end Service

end MessageRelay
