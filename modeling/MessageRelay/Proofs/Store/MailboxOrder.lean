import Mathlib.Data.List.Pairwise
import MessageRelay.Store.Mailbox

/-!
# The order of a mailbox

In a mailbox that is well kept the messages stand in the order of their numbers, below the number
that comes next, and the owners are those of the messages that wait. An empty mailbox is well kept,
and taking in a message under the next number, removing a message and raising the next number keep
it so. Under this invariant removing a number leaves every message with another number.
-/

set_option autoImplicit false

namespace MessageRelay.Store

open Protocol (ClientId)

namespace Mailbox

/-- What waits for a client are the messages to it. -/
theorem mem_unread_iff {mailbox : Mailbox} {client : ClientId} {message : StoredMessage} :
    message ∈ mailbox.unread client ↔ message ∈ mailbox.messages ∧ message.target = client := by
  simp only [unread, List.mem_filter, decide_eq_true_eq]

/-- What holds in every mailbox that was filled and emptied by its operations. -/
structure WellKept (mailbox : Mailbox) : Prop where
  positive : 0 < mailbox.nextId
  ordered : mailbox.messages.Pairwise fun a b => a.id < b.id
  numbered : ∀ message ∈ mailbox.messages, message.id < mailbox.nextId
  owned : ∀ id owner, mailbox.owners.find? id = some owner ↔
    ∃ message ∈ mailbox.messages, message.id = id ∧ message.target = owner

/-- An empty mailbox is well kept. -/
theorem wellKept_empty : empty.WellKept where
  positive := by decide
  ordered := List.Pairwise.nil
  numbered := by simp [empty]
  owned := by simp [empty]

/-- Messages with one number are the same. -/
theorem WellKept.eq_of_id {mailbox : Mailbox} (kept : mailbox.WellKept) {a b : StoredMessage}
    (ha : a ∈ mailbox.messages) (hb : b ∈ mailbox.messages) (h : a.id = b.id) : a = b := by
  have symm : Std.Symm fun x y : StoredMessage => x.id ≠ y.id := ⟨fun _ _ hxy => hxy.symm⟩
  have distinct : mailbox.messages.Pairwise fun x y => x.id ≠ y.id :=
    kept.ordered.imp fun hlt => UInt32.ne_of_lt hlt
  by_contra hne
  exact distinct.forall ha hb hne h

/-! ## Taking in -/

/-- A number is handed out exactly if it is not the last one, and is then used up. -/
theorem allocate_eq_ok_iff (mailbox mailbox' : Mailbox) (id : UInt32) :
    mailbox.allocate = .ok (id, mailbox') ↔
      mailbox.nextId ≠ lastId ∧ id = mailbox.nextId ∧
        mailbox' = { mailbox with nextId := mailbox.nextId + 1 } := by
  unfold allocate
  split
  · rename_i h
    simp [h]
  · rename_i h
    simp only [Except.ok.injEq, Prod.mk.injEq, ne_eq, h, not_false_eq_true, true_and]
    constructor
    · rintro ⟨rfl, rfl⟩
      exact ⟨rfl, rfl⟩
    · rintro ⟨rfl, rfl⟩
      exact ⟨rfl, rfl⟩

/-- The next number is above any but the last one. -/
theorem lt_next {id : UInt32} (h : id ≠ lastId) : id < id + 1 := by
  have hne : id.toNat ≠ 4294967295 := by
    intro he
    exact h (UInt32.toNat_inj.1 he)
  have hlt := id.toNat_lt
  rw [UInt32.lt_iff_toNat_lt, UInt32.toNat_add]
  have hone : (1 : UInt32).toNat = 1 := rfl
  rw [hone]
  omega

/-- A message with a number above all others and below the next one is put at the end. -/
theorem WellKept.restore {mailbox : Mailbox} (kept : mailbox.WellKept) {message : StoredMessage}
    (above : ∀ other ∈ mailbox.messages, other.id < message.id)
    (below : message.id < mailbox.nextId) : (mailbox.restore message).WellKept where
  positive := kept.positive
  ordered := by
    simp only [Mailbox.restore, List.pairwise_append]
    refine ⟨kept.ordered, List.pairwise_singleton _ _, ?_⟩
    intro a ha b hb
    rw [List.mem_singleton.1 hb]
    exact above a ha
  numbered := by
    intro other h
    simp only [Mailbox.restore, List.mem_append, List.mem_singleton] at h
    obtain h | rfl := h
    · exact kept.numbered other h
    · exact below
  owned := by
    intro id owner
    -- the number is above all others, so no other message has it
    simp only [Mailbox.restore, Table.find?_put, List.mem_append, List.mem_singleton]
    split
    · rename_i hid
      subst hid
      constructor
      · intro h
        exact ⟨message, .inr rfl, rfl, Option.some.inj h⟩
      · rintro ⟨other, h | rfl, hid, rfl⟩
        · exact absurd hid (UInt32.ne_of_lt (above other h))
        · rfl
    · rename_i hid
      rw [kept.owned]
      constructor
      · rintro ⟨other, h, rest⟩
        exact ⟨other, .inl h, rest⟩
      · rintro ⟨other, h | rfl, rest⟩
        · exact ⟨other, h, rest⟩
        · exact absurd rest.1 hid

/-- A mailbox stays well kept when its next number is raised. -/
theorem WellKept.withNextId {mailbox : Mailbox} (kept : mailbox.WellKept) {next : UInt32}
    (h : mailbox.nextId ≤ next) : { mailbox with nextId := next }.WellKept where
  positive := UInt32.lt_of_lt_of_le kept.positive h
  ordered := kept.ordered
  numbered message hm := UInt32.lt_of_lt_of_le (kept.numbered message hm) h
  owned := kept.owned

/-- A mailbox stays well kept when it takes in a message under its next number. -/
theorem WellKept.take {mailbox : Mailbox} (kept : mailbox.WellKept) {message : StoredMessage}
    (room : mailbox.nextId ≠ lastId) (hid : message.id = mailbox.nextId) :
    ({ mailbox with nextId := mailbox.nextId + 1 }.restore message).WellKept := by
  have grown := lt_next room
  refine (kept.withNextId (UInt32.le_of_lt grown)).restore ?_ ?_
  · intro other h
    rw [hid]
    exact kept.numbered other h
  · rw [hid]
    exact grown

/-- How a mailbox has grown that took in messages and lost none. -/
structure Grows (new : List StoredMessage) (mailbox mailbox' : Mailbox) : Prop where
  messages : mailbox'.messages = mailbox.messages ++ new
  nextId : mailbox.nextId ≤ mailbox'.nextId
  ordered : new.Pairwise fun a b => a.id < b.id
  numbered : ∀ message ∈ new, mailbox.nextId ≤ message.id ∧ message.id < mailbox'.nextId
  kept : mailbox.WellKept → mailbox'.WellKept

/-- A mailbox that stays as it is grows by nothing. -/
theorem Grows.refl (mailbox : Mailbox) : Grows [] mailbox mailbox where
  messages := (List.append_nil _).symm
  nextId := UInt32.le_refl _
  ordered := List.Pairwise.nil
  numbered := by simp
  kept := id

/-- A mailbox that grows twice grows by the messages of both times. -/
theorem Grows.trans {first second : List StoredMessage} {a b c : Mailbox} (h : Grows first a b)
    (h' : Grows second b c) : Grows (first ++ second) a c where
  messages := by rw [h'.messages, h.messages, List.append_assoc]
  nextId := UInt32.le_trans h.nextId h'.nextId
  ordered := by
    rw [List.pairwise_append]
    refine ⟨h.ordered, h'.ordered, ?_⟩
    intro x hx y hy
    exact UInt32.lt_of_lt_of_le (h.numbered x hx).2 (h'.numbered y hy).1
  numbered := by
    intro message hm
    obtain hm | hm := List.mem_append.1 hm
    · exact ⟨(h.numbered message hm).1, UInt32.lt_of_lt_of_le (h.numbered message hm).2 h'.nextId⟩
    · exact ⟨UInt32.le_trans h.nextId (h'.numbered message hm).1, (h'.numbered message hm).2⟩
  kept hk := h'.kept (h.kept hk)

/-- A mailbox that wastes a number grows by nothing. -/
theorem grows_waste {mailbox : Mailbox} (room : mailbox.nextId ≠ lastId) :
    Grows [] mailbox { mailbox with nextId := mailbox.nextId + 1 } where
  messages := (List.append_nil _).symm
  nextId := UInt32.le_of_lt (lt_next room)
  ordered := List.Pairwise.nil
  numbered := by simp
  kept hk := hk.withNextId (UInt32.le_of_lt (lt_next room))

/-- A mailbox that takes in a message under its next number grows by it. -/
theorem grows_take {mailbox : Mailbox} {message : StoredMessage} (room : mailbox.nextId ≠ lastId)
    (hid : message.id = mailbox.nextId) :
    Grows [message] mailbox
      ({ mailbox with nextId := mailbox.nextId + 1 }.restore message) where
  messages := rfl
  nextId := UInt32.le_of_lt (lt_next room)
  ordered := List.pairwise_singleton _ _
  numbered := by
    intro other h
    rw [List.mem_singleton.1 h, hid]
    exact ⟨UInt32.le_refl _, lt_next room⟩
  kept hk := hk.take room hid

/-! ## Removing -/

/-- A number is known exactly if a message has it. -/
theorem WellKept.contains_iff {mailbox : Mailbox} (kept : mailbox.WellKept) (id : UInt32) :
    mailbox.contains id = true ↔ ∃ message ∈ mailbox.messages, message.id = id := by
  rw [contains, Table.has, Option.isSome_iff_exists]
  constructor
  · rintro ⟨owner, h⟩
    obtain ⟨message, hm, hid, -⟩ := (kept.owned id owner).1 h
    exact ⟨message, hm, hid⟩
  · rintro ⟨message, hm, hid⟩
    exact ⟨message.target, (kept.owned id _).2 ⟨message, hm, hid, rfl⟩⟩

/-- Removing a number leaves the messages with other numbers. -/
theorem WellKept.messages_forget {mailbox : Mailbox} (kept : mailbox.WellKept) (id : UInt32) :
    (mailbox.forget id).messages = mailbox.messages.filter fun message => message.id ≠ id := by
  unfold forget
  split
  · rename_i h
    symm
    rw [List.filter_eq_self]
    intro message hm
    have absent : message.id ≠ id := by
      intro hid
      have found := (kept.owned id message.target).2 ⟨message, hm, hid, rfl⟩
      rw [h] at found
      cases found
    simpa using absent
  · rename_i owner h
    apply List.filter_congr
    intro message hm
    have same : message.id = id → message.target = owner := by
      intro hid
      have found := (kept.owned id message.target).2 ⟨message, hm, hid, rfl⟩
      rw [h] at found
      exact (Option.some.inj found).symm
    by_cases hid : message.id = id
    · simp [hid, same hid]
    · simp [hid]

/-- Forgetting a message does not give its number back. -/
theorem nextId_forget (mailbox : Mailbox) (id : UInt32) :
    (mailbox.forget id).nextId = mailbox.nextId := by
  unfold forget
  split <;> rfl

/-- Forgetting a number that is not known changes nothing. -/
theorem forget_of_not_contains {mailbox : Mailbox} {id : UInt32}
    (h : mailbox.contains id = false) : mailbox.forget id = mailbox := by
  unfold forget
  have absent : mailbox.owners.find? id = none := by
    simpa [contains, Table.has] using h
  rw [absent]

/-- Forgetting a number takes its owner away, and no other one. -/
theorem find?_owners_forget (mailbox : Mailbox) (id id' : UInt32) :
    (mailbox.forget id).owners.find? id'
      = if id = id' then none else mailbox.owners.find? id' := by
  unfold forget
  split
  · rename_i h
    split
    · rename_i hid
      rw [← hid, h]
    · rfl
  · exact Table.find?_erase id id' mailbox.owners

/-- A mailbox stays well kept when it forgets a message. -/
theorem WellKept.forget {mailbox : Mailbox} (kept : mailbox.WellKept) (id : UInt32) :
    (mailbox.forget id).WellKept where
  positive := by
    rw [nextId_forget]
    exact kept.positive
  ordered := by
    rw [kept.messages_forget]
    exact kept.ordered.filter _
  numbered := by
    intro message h
    rw [kept.messages_forget] at h
    rw [nextId_forget]
    exact kept.numbered message (List.mem_filter.1 h).1
  owned := by
    intro id' owner
    rw [find?_owners_forget, kept.messages_forget]
    split
    · rename_i hid
      simp only [List.mem_filter, reduceCtorEq, false_iff, not_exists]
      rintro message ⟨⟨-, hne⟩, hid', -⟩
      simp [hid', hid] at hne
    · rename_i hid
      rw [kept.owned]
      simp only [List.mem_filter, decide_not, Bool.not_eq_true', decide_eq_false_iff_not]
      constructor
      · rintro ⟨message, hm, hid', ho⟩
        exact ⟨message, ⟨hm, fun h => hid (h.symm.trans hid')⟩, hid', ho⟩
      · rintro ⟨message, ⟨hm, -⟩, rest⟩
        exact ⟨message, hm, rest⟩

/-- Removing numbers one after the other leaves the messages without any of them. -/
theorem WellKept.forgetAll {mailbox : Mailbox} (kept : mailbox.WellKept) (ids : List UInt32) :
    (ids.foldl (fun rest id => rest.forget id) mailbox).WellKept ∧
      (ids.foldl (fun rest id => rest.forget id) mailbox).messages
        = mailbox.messages.filter (fun message => message.id ∉ ids) ∧
      (ids.foldl (fun rest id => rest.forget id) mailbox).nextId = mailbox.nextId := by
  induction ids generalizing mailbox with
  | nil =>
    refine ⟨kept, ?_, rfl⟩
    symm
    simp
  | cons id ids ih =>
    obtain ⟨kept', messages', nextId'⟩ := ih (kept.forget id)
    rw [List.foldl_cons]
    refine ⟨kept', ?_, ?_⟩
    · rw [messages', kept.messages_forget, List.filter_filter]
      apply List.filter_congr
      intro message _
      simp only [List.mem_cons, not_or, ne_eq, decide_not, Bool.decide_and, Bool.and_comm]
    · rw [nextId', nextId_forget]

/-- Removing numbers takes them out of every queue. -/
theorem WellKept.unread_forgetAll {mailbox : Mailbox} (kept : mailbox.WellKept) (ids : List UInt32)
    (client : ClientId) :
    (ids.foldl (fun rest id => rest.forget id) mailbox).unread client
      = (mailbox.unread client).filter fun message => message.id ∉ ids := by
  rw [unread, unread, (kept.forgetAll ids).2.1, List.filter_filter, List.filter_filter]
  exact List.filter_congr fun message _ => Bool.and_comm _ _

/-- What waits for a client after a message is forgotten are its other messages. -/
theorem WellKept.unread_forget {mailbox : Mailbox} (kept : mailbox.WellKept) (id : UInt32)
    (client : ClientId) :
    (mailbox.forget id).unread client
      = (mailbox.unread client).filter fun message => message.id ≠ id := by
  simpa only [List.mem_singleton, List.foldl_cons, List.foldl_nil] using
    kept.unread_forgetAll [id] client

/-- The numbers in a queue are those of the messages to its client. -/
theorem WellKept.id_mem_unread_iff {mailbox : Mailbox} (kept : mailbox.WellKept)
    {message : StoredMessage} (waits : message ∈ mailbox.messages) (client : ClientId) :
    message.id ∈ (mailbox.unread client).map (·.id) ↔ message.target = client := by
  simp only [List.mem_map, mem_unread_iff]
  constructor
  · rintro ⟨other, ⟨waits', target⟩, same⟩
    rw [← kept.eq_of_id waits' waits same]
    exact target
  · intro target
    exact ⟨message, ⟨waits, target⟩, rfl⟩

/-- Removing all that waits for a client leaves what waits for others. -/
theorem WellKept.forget_unread {mailbox : Mailbox} (kept : mailbox.WellKept) (client : ClientId) :
    mailbox.messages.filter
        (fun message => message.id ∉ (mailbox.unread client).map (·.id))
      = mailbox.messages.filter (fun message => message.target ≠ client) := by
  apply List.filter_congr
  intro message waits
  simp only [kept.id_mem_unread_iff waits client, ne_eq]

/-! ## Reading -/

/-- The messages of a well-kept mailbox are in the order of their numbers already. -/
theorem WellKept.pending_eq {mailbox : Mailbox} (kept : mailbox.WellKept) :
    mailbox.pending = mailbox.messages := by
  apply List.mergeSort_of_pairwise
  refine kept.ordered.imp ?_
  intro a b h
  simpa using UInt32.le_of_lt h

end Mailbox

end MessageRelay.Store
