import MessageRelay.Proofs.Service.Collection
import MessageRelay.Proofs.Service.Listing
import MessageRelay.Proofs.Service.PlainNames

/-!
# The list of clients is told whole

A client that asks who else there is gets every other client once, in the order of their names'
bytes (`ascending_listing`). In a store that connections filled, whichever of its writes failed and
however often it was restarted, no name has a zero byte, so the list is read as it was sent; and as
long as the entries of all clients fit the size field of a response, it can be sent
(`whole_listing_told`).
-/

set_option autoImplicit false

namespace MessageRelay.Service

open Connection
open Protocol
open Store (Backend)

variable {packetSize : Nat} {visit : Visit} {requester : ClientId} {store : Backend}

/-- The names in a list of clients grow from entry to entry, compared byte by byte. -/
theorem ascending_listing (consistent : store.directory.Consistent) (sender : ClientId) :
    (listing sender store).Pairwise fun a b => Text.utf8 a.name < Text.utf8 b.name := by
  have ordered := Store.Directory.pairwise_arrange store.directory.all
  have distinct := List.pairwise_map.1 consistent.nodup_sorted.2
  have ascending : store.directory.sorted.Pairwise fun a b =>
      Text.utf8 a.name < Text.utf8 b.name :=
    (ordered.and distinct).imp fun both => Text.utf8_lt_of_le both.1 both.2
  exact List.pairwise_map.2 (ascending.filter _)

/-- The list is no longer than there are clients in the store. -/
theorem length_listing_le (sender : ClientId) (store : Backend) :
    (listing sender store).length ≤ store.directory.sorted.length := by
  rw [listing, List.length_map]
  exact List.length_filter_le _ _

/-- Noting that a client was seen changes nobody's entry. -/
theorem listing_of_sighting (consistent : store.directory.Consistent) {noted : Backend}
    {id : ClientId} {now : Timestamp} (sighting : Backend.Sighting id now store noted)
    (sender : ClientId) : listing sender noted = listing sender store := by
  cases sighting with
  | unknown => rfl
  | unwritten fault accords directory mailbox => rw [listing, listing, directory]
  | seen accords seen mailbox =>
    rw [listing, listing, consistent.sorted_see seen, List.filter_map, List.map_map]
    simp only [Function.comp_def, Store.Directory.id_seenAt, Store.Directory.name_seenAt]

/-- In every store that connections filled, with fewer clients than a response has room for, a client
that asks for the list of clients is answered with it: with every other client once, in the order of
the names. The answer has an encoding and is read back from it. It is the one response that goes out,
and goes out to its end where every write is taken. -/
theorem whole_listing_told (packetSize : Nat) (visited : Visited store)
    (room : store.directory.sorted.length * clientEntrySize < 4294967296)
    (known : store.directory.hasId requester = true)
    (asked : visit.request? packetSize = some (requester, .clientsList)) :
    ∃ entries, Lists requester store entries ∧
      (entries.Pairwise fun a b => Text.utf8 a.name < Text.utf8 b.name) ∧
      (∃ message header, (Response.clientsList entries).encode = .ok message ∧
        Response.decodeWhole message = .ok (header, .clientsList entries)) ∧
      visit.AnsweredWith packetSize store (.clientsList entries) ∧
      (visit.peer.Steady → visit.Receives packetSize store (.clientsList entries)) := by
  obtain ⟨roll, enrols, names⟩ := visited.namedPlainly
  have plain : ∀ record ∈ store.directory.sorted, 0 ∉ Text.utf8 record.name :=
    fun _ => Backend.NamedPlainly.mem_sorted ⟨roll, enrols, names⟩
  obtain ⟨encodes, reads⟩ := listing_on_wire enrols plain requester
  obtain ⟨message, written⟩ := encodes.2 (Nat.lt_of_le_of_lt
    (Nat.mul_le_mul_right clientEntrySize (length_listing_le requester store)) room)
  obtain ⟨header, read⟩ := reads message written
  -- the handler finds the sender noted, which leaves the list as it was
  obtain ⟨noted, sighting, ready⟩ := prepare_of_request asked (.inr known)
  simp only [Request.code, Handler.handle, Handler.run_listClients, Visit.occasion,
    listing_of_sighting enrols.consistent sighting, Reply.ofResult] at ready
  let reply : Reply := { response := .clientsList (listing requester store), delivered := [] }
  have outgoing : reply.outgoing = reply.response := Reply.outgoing_of_encode ⟨message, written⟩
  have answered := Relay.dispatch_answered visit.peer rfl ready
  rw [outgoing] at answered
  refine ⟨listing requester store, lists_listing enrols.consistent requester,
    ascending_listing enrols.consistent requester, ⟨message, header, written, read⟩, answered,
    fun steady => ?_⟩
  have received := receives_of_ready steady ready
  rwa [outgoing] at received

/-- A client registers, and is given the identifier of one byte. -/
def joining (id : UInt8) (name : String) : Visit :=
  let visit := Visit.ofRequest .unregistered (.register name (List.replicate publicKeySize id))
  { visit with
    circumstances := { now := visit.circumstances.now, candidates := [.ofBytes [id]] } }

/-- The first of three clients is told the other two, in the order of their names and not in the
order in which they came. -/
theorem whole_listing_told_three :
    let join (id : UInt8) (name : String) (store : Backend) : Backend :=
      ((joining id name).outcome Protocol.packetSize store).state.store
    let store := join 3 "b" (join 2 "c" (join 1 "a" (.memory .empty)))
    (Visit.ofRequest (.ofBytes [1]) .clientsList).Receives Protocol.packetSize store
      (.clientsList [⟨.ofBytes [3], "b"⟩, ⟨.ofBytes [2], "c"⟩]) := by
  intro join store
  have joins (id : UInt8) (name : String) {store : Backend} (visited : Visited store) :
      Visited (join id name store) :=
    visited.connection (Relay.ofPacketSize _) (joining id name).circumstances _ _
  have visited : Visited store := joins 3 "b" (joins 2 "c" (joins 1 "a" (.fresh .memory)))
  have known : store.directory.hasId (.ofBytes [1]) = true := by decide +kernel
  have all : store.directory.all.map (fun record => ClientEntry.mk record.id record.name)
      = [⟨.ofBytes [1], "a"⟩, ⟨.ofBytes [2], "c"⟩, ⟨.ofBytes [3], "b"⟩] := by decide +kernel
  have asked : (Visit.ofRequest (.ofBytes [1]) .clientsList).request? Protocol.packetSize
      = some (.ofBytes [1], .clientsList) := by decide +kernel
  clear_value store
  have arranged : (store.directory.sorted.map fun record => ClientEntry.mk record.id record.name).Perm
      [⟨.ofBytes [1], "a"⟩, ⟨.ofBytes [2], "c"⟩, ⟨.ofBytes [3], "b"⟩] :=
    all ▸ (Store.Directory.perm_arrange store.directory.all).map _
  have three : store.directory.sorted.length = 3 := by
    rw [← List.length_map, arranged.length_eq]
    rfl
  obtain ⟨entries, lists, ascending, -, -, received⟩ :=
    whole_listing_told Protocol.packetSize visited (by rw [three]; decide) known asked
  have told : entries.Perm [⟨.ofBytes [3], "b"⟩, ⟨.ofBytes [2], "c"⟩] := by
    refine (List.perm_ext_iff_of_nodup (List.Nodup.of_map _ lists.ids) (by decide)).2 fun entry => ?_
    have among := @List.Perm.mem_iff _ entry _ _ arranged
    simp only [List.mem_map, List.mem_cons, List.not_mem_nil, or_false] at among ⊢
    obtain ⟨id, name⟩ := entry
    simp only [ClientEntry.mk.injEq] at among ⊢
    rw [lists.mem_iff, among]
    constructor
    · rintro ⟨other, ⟨rfl, rfl⟩ | ⟨rfl, rfl⟩ | ⟨rfl, rfl⟩⟩
      · exact absurd rfl other
      · exact .inr ⟨rfl, rfl⟩
      · exact .inl ⟨rfl, rfl⟩
    · rintro (⟨rfl, rfl⟩ | ⟨rfl, rfl⟩)
      · exact ⟨by decide, .inr (.inr ⟨rfl, rfl⟩)⟩
      · exact ⟨by decide, .inr (.inl ⟨rfl, rfl⟩)⟩
  have others : entries = [⟨.ofBytes [3], "b"⟩, ⟨.ofBytes [2], "c"⟩] := by
    refine told.eq_of_pairwise (fun _ _ _ _ less more => ?_) ascending (by decide)
    exact absurd less (List.lt_asymm more)
  rw [← others]
  exact received Peer.steady_willing

end MessageRelay.Service
