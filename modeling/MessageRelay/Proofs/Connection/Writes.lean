import MessageRelay.Proofs.Connection.Sending
import MessageRelay.Proofs.Protocol.Packets
import MessageRelay.Proofs.Protocol.ResponseRoundTrip

/-!
# The writes that send a response

Every write that is made to send a response is known: what it is offered and what becomes of it
(`Outbox.sendWrites`). What a write is offered starts right behind what was taken before it, and
none follows one that takes nothing (`InTurn`). So whatever the other side makes of the writes,
nothing is offered again once it is taken, what goes out is the front of the packets, and sending
succeeds exactly if that is all of them and the flush succeeds (`send_whole_or_front`).
-/

set_option autoImplicit false

namespace MessageRelay.Connection

open Protocol

/-- A write to the other side of a connection. -/
structure Write where
  /-- The bytes that it is offered. -/
  offered : Bytes
  fate : WriteFate

/-- The bytes that a write takes. -/
def Write.taken (write : Write) : Bytes :=
  match write.fate with
  | .takesAll => write.offered
  | .takes limit => write.offered.take limit
  | .fails _ => []

/-- What is known of a write afterwards: how many bytes it took, unless it failed. -/
def Write.sizes (write : Write) : List Nat :=
  match write.fate with
  | .fails _ => []
  | _ => [write.taken.length]

namespace Outbox

/-- The writes of `writeAll`. -/
def writes (peer : Peer) (bytes : Bytes) (outbox : Outbox) : List Write :=
  if _ : bytes = [] then []
  else
    match peer.write outbox.sizes with
    | .fails fault => [⟨bytes, .fails fault⟩]
    | .takesAll => [⟨bytes, .takesAll⟩]
    | .takes limit =>
      if _ : limit = 0 then [⟨bytes, .takes limit⟩]
      else ⟨bytes, .takes limit⟩ :: writes peer (bytes.drop limit) (outbox.take limit bytes)
termination_by bytes.length
decreasing_by
  have := List.length_pos_iff.2 ‹¬ bytes = []›
  simp only [List.length_drop]
  omega

/-- The writes of `writePackets`. -/
def packetWrites (peer : Peer) : List Bytes → Outbox → List Write
  | [], _ => []
  | packet :: packets, outbox =>
    outbox.writes peer packet ++
      match outbox.writeAll peer packet with
      | (.error _, _) => []
      | (.ok (), outbox') => packetWrites peer packets outbox'

/-- The writes of `send`. -/
def sendWrites (peer : Peer) (packetSize : Nat) (response : Response) (outbox : Outbox) :
    List Write :=
  match response.encode with
  | .error _ => []
  | .ok message => outbox.packetWrites peer (Framing.split packetSize message)

end Outbox

/-! ## Writes one after the other -/

/-- Writes of bytes to a side that has taken so many at a time before: each is offered some of the
bytes, from the first that is not taken yet, and none follows one that takes nothing. -/
inductive InTurn (peer : Peer) : List Nat → Bytes → List Write → Prop where
  | none (sizes : List Nat) (bytes : Bytes) : InTurn peer sizes bytes []
  | write {sizes : List Nat} {bytes : Bytes} {write : Write} {writes : List Write}
      (some_ : write.offered ≠ []) (front : write.offered <+: bytes)
      (fate : write.fate = peer.write sizes) (last : write.taken = [] → writes = [])
      (later : InTurn peer (sizes ++ write.sizes) (bytes.drop write.taken.length) writes) :
      InTurn peer sizes bytes (write :: writes)

/-- What a write takes is a front of what it offers. -/
theorem Write.taken_prefix (write : Write) : write.taken <+: write.offered := by
  unfold taken
  split
  · exact List.prefix_refl _
  · exact List.take_prefix _ _
  · exact List.nil_prefix

/-- Where writes take all bytes, those after the first take what the first leaves. -/
theorem flatMap_taken_of_cons {write : Write} {writes : List Write} {bytes : Bytes}
    (all : (write :: writes).flatMap Write.taken = bytes) :
    writes.flatMap Write.taken = bytes.drop write.taken.length := by
  rw [← all, List.flatMap_cons, List.drop_left]

namespace InTurn

variable {peer : Peer} {sizes : List Nat} {bytes more : Bytes} {writes others : List Write}

/-- What the writes take is a front of the bytes. -/
theorem taken_prefix (h : InTurn peer sizes bytes writes) :
    writes.flatMap Write.taken <+: bytes := by
  induction h with
  | none => exact List.nil_prefix
  | @write _ bytes write writes _ front _ _ _ ih =>
    have split := List.prefix_iff_eq_append.1 (write.taken_prefix.trans front)
    rw [List.flatMap_cons, ← split]
    exact (List.prefix_append_right_inj _).2 ih

/-- If all bytes are taken, every write takes something. -/
theorem taken_ne_nil (h : InTurn peer sizes bytes writes)
    (all : writes.flatMap Write.taken = bytes) : ∀ write ∈ writes, write.taken ≠ [] := by
  induction h with
  | none => simp
  | @write _ bytes write writes some_ front _ last _ ih =>
    have moving : write.taken ≠ [] := by
      intro nothing
      rw [last nothing, List.flatMap_cons, nothing] at all
      rw [← all] at front
      exact some_ (List.prefix_nil.1 front)
    have rest := flatMap_taken_of_cons all
    simpa [moving] using ih rest

/-- Writes that are in turn stay so if there are more bytes behind those that are written. -/
theorem of_more (h : InTurn peer sizes bytes writes) (more : Bytes) :
    InTurn peer sizes (bytes ++ more) writes := by
  induction h with
  | none => exact .none _ _
  | @write sizes bytes write writes some_ front fate last later ih =>
    refine .write some_ (front.trans (List.prefix_append bytes more)) fate last ?_
    rwa [List.drop_append_of_le_length (write.taken_prefix.trans front).length_le]

/-- The writes of further bytes follow those that took all there were. -/
theorem append (h : InTurn peer sizes bytes writes) (all : writes.flatMap Write.taken = bytes)
    (h' : InTurn peer (sizes ++ writes.flatMap Write.sizes) more others) :
    InTurn peer sizes (bytes ++ more) (writes ++ others) := by
  have moving := h.taken_ne_nil all
  induction h with
  | none =>
    cases all
    simpa using h'
  | @write sizes bytes write writes some_ front fate last later ih =>
    have rest := flatMap_taken_of_cons all
    refine .write some_ (front.trans (List.prefix_append bytes more)) fate
      (fun nothing => absurd nothing (moving write List.mem_cons_self)) ?_
    rw [List.drop_append_of_le_length (write.taken_prefix.trans front).length_le]
    apply ih rest
    · rwa [List.append_assoc, ← List.flatMap_cons]
    · exact fun other among => moving other (List.mem_cons_of_mem write among)

/-- A write is offered what follows the bytes that the writes before it took. -/
theorem at_write {before after : List Write} {write : Write}
    (h : InTurn peer sizes bytes (before ++ write :: after)) :
    write.offered ≠ [] ∧ before.flatMap Write.taken ++ write.offered <+: bytes ∧
      write.fate = peer.write (sizes ++ before.flatMap Write.sizes) ∧
      (write.taken = [] → after = []) := by
  induction before generalizing sizes bytes with
  | nil =>
    cases h with
    | write some_ front fate last _ => exact ⟨some_, front, by simpa using fate, last⟩
  | cons first before ih =>
    cases h with
    | write _ front _ _ later =>
      obtain ⟨some_, behind, fate, last⟩ := ih later
      have split := List.prefix_iff_eq_append.1 (first.taken_prefix.trans front)
      refine ⟨some_, ?_, by simpa using fate, last⟩
      rw [List.flatMap_cons, List.append_assoc, ← split]
      exact (List.prefix_append_right_inj _).2 behind

end InTurn

/-! ## The writes of a response -/

namespace Outbox

/-- How writes of bytes account for what comes of them. -/
structure Told (peer : Peer) (bytes : Bytes) (outbox : Outbox) (writes : List Write)
    (result : Except SendError Unit × Outbox) : Prop where
  inTurn : InTurn peer outbox.sizes bytes writes
  begun : writes = [] → bytes = []
  taken : result.2.taken = outbox.taken ++ writes.flatMap Write.taken
  sizes : result.2.sizes = outbox.sizes ++ writes.flatMap Write.sizes

/-- A write that takes at most so many bytes adds what it takes, and how many there are. -/
theorem take_eq (limit : Nat) (bytes : Bytes) (outbox : Outbox) :
    outbox.take limit bytes = ⟨outbox.taken ++ Write.taken ⟨bytes, .takes limit⟩,
      outbox.sizes ++ Write.sizes ⟨bytes, .takes limit⟩⟩ := by
  simp only [take, Write.taken, Write.sizes, List.length_take]

/-- The writes of a byte string account for what comes of writing all of it. -/
theorem writeAll_told (peer : Peer) (bytes : Bytes) (outbox : Outbox) :
    Told peer bytes outbox (outbox.writes peer bytes) (outbox.writeAll peer bytes) := by
  fun_induction writeAll peer bytes outbox with
  | case1 outbox =>
    rw [writes, dif_pos rfl]
    exact ⟨.none _ _, fun _ => rfl, by simp, by simp⟩
  | case2 bytes outbox some_ fault fate =>
    rw [writes, dif_neg some_, fate]
    exact ⟨.write some_ (List.prefix_refl _) fate.symm (fun _ => rfl) (.none _ _), by simp,
      by simp [Write.taken], by simp [Write.sizes]⟩
  | case3 bytes outbox some_ fate =>
    rw [writes, dif_neg some_, fate]
    exact ⟨.write some_ (List.prefix_refl _) fate.symm (fun _ => rfl) (.none _ _), by simp,
      by simp [Write.taken, take], by simp [Write.sizes, Write.taken, take]⟩
  | case4 bytes outbox some_ fate =>
    rw [writes, dif_neg some_, fate]
    exact ⟨.write some_ (List.prefix_refl _) fate.symm (fun _ => rfl) (.none _ _), by simp,
      by simp [take_eq], by simp [take_eq]⟩
  | case5 bytes outbox some_ limit fate positive ih =>
    have first : Write.taken ⟨bytes, .takes limit⟩ = bytes.take limit := rfl
    have moving : bytes.take limit ≠ [] := by
      simp [List.take_eq_nil_iff, positive, some_]
    have rest : bytes.drop (bytes.take limit).length = bytes.drop limit := by
      rw [List.length_take]
      rcases Nat.le_total limit bytes.length with fits | more
      · rw [Nat.min_eq_left fits]
      · rw [Nat.min_eq_right more, List.drop_length, List.drop_of_length_le more]
    obtain ⟨inTurn, -, taken, sizes⟩ := ih
    simp only [take_eq] at inTurn taken sizes ⊢
    rw [writes, dif_neg some_, fate]
    simp only [dif_neg positive, take_eq]
    refine ⟨.write some_ (List.prefix_refl _) fate.symm (fun nothing => absurd nothing moving) ?_,
      by simp, ?_, ?_⟩
    · rw [first, rest]
      exact inTurn
    · rw [taken, List.flatMap_cons, List.append_assoc]
    · rw [sizes, List.flatMap_cons, List.append_assoc]

/-- The writes of packets account for what comes of writing one after the other. -/
theorem writePackets_told (peer : Peer) (packets : List Bytes) (outbox : Outbox) :
    Told peer packets.flatten outbox (outbox.packetWrites peer packets)
      (outbox.writePackets peer packets) := by
  induction packets generalizing outbox with
  | nil =>
    rw [packetWrites, writePackets]
    exact ⟨.none _ _, fun _ => rfl, by simp, by simp⟩
  | cons packet packets ih =>
    have told := writeAll_told peer packet outbox
    have written := writeAll_writing peer packet outbox
    rw [packetWrites, writePackets, List.flatten_cons]
    generalize outbox.writeAll peer packet = result at told written ⊢
    cases written with
    | @all middle all =>
      have whole : (outbox.writes peer packet).flatMap Write.taken = packet :=
        List.append_cancel_left (told.taken.symm.trans all)
      have rest := ih middle
      have sizes : middle.sizes = _ := told.sizes
      refine ⟨told.inTurn.append whole ?_, fun none => ?_, ?_, ?_⟩
      · rw [← sizes]
        exact rest.inTurn
      · obtain ⟨first, later⟩ := List.append_eq_nil_iff.1 none
        rw [told.begun first, rest.begun later, List.append_nil]
      · simp only [rest.taken, all, List.flatMap_append, whole, List.append_assoc]
      · rw [rest.sizes, sizes, List.flatMap_append, List.append_assoc]
    | front _ _ joined more _ _ =>
      simp only [List.append_nil]
      refine ⟨told.inTurn.of_more _, fun none => ?_, told.taken, told.sizes⟩
      exact absurd (List.append_eq_nil_iff.1 (joined.trans (told.begun none))).2 more

/-- A delivery takes what its packets take: the flush behind them takes nothing. -/
theorem outbox_deliver (peer : Peer) (packetSize : Nat) (message : Bytes) (outbox : Outbox) :
    (outbox.deliver peer packetSize message).2
      = (outbox.writePackets peer (Framing.split packetSize message)).2 := by
  simp only [deliver]
  generalize outbox.writePackets peer (Framing.split packetSize message) = written
  obtain ⟨_ | _, after⟩ := written
  · rfl
  · simp only
    cases peer.flush after.sizes <;> rfl

/-- Sending succeeds exactly if all is taken and the flush does not fail. -/
theorem deliver_eq_ok_iff (peer : Peer) (packetSize : Nat) (message : Bytes) (outbox : Outbox)
    (n : Nat) :
    (outbox.deliver peer packetSize message).1 = .ok n ↔
      (outbox.deliver peer packetSize message).2.taken
          = outbox.taken ++ (Framing.split packetSize message).flatten ∧
        peer.flush (outbox.deliver peer packetSize message).2.sizes = none ∧
        n = (Framing.split packetSize message).flatten.length := by
  have written := writePackets_writing peer (Framing.split packetSize message) outbox
  simp only [deliver]
  generalize outbox.writePackets peer (Framing.split packetSize message) = result at written
  cases written with
  | @all after all =>
    cases flush : peer.flush after.sizes with
    | some fault => simp [flush]
    | none => simp [flush, all, eq_comm]
  | front front back joined more taken =>
    -- Something is left that was not taken.
    have cut : front ≠ (Framing.split packetSize message).flatten := by
      rw [← joined]
      simpa using Ne.symm more
    simp [taken, cut]

/-- A sending that failed on the way, because of the other side and not of the response. -/
def Failed (result : Except SendError Nat) : Prop :=
  ∃ cause, result = .error cause ∧ ∀ wire, cause ≠ .notEncoded wire

/-- A delivery ends with the number of its bytes or with a failure of the socket. -/
theorem deliver_ok_or_failed (peer : Peer) (packetSize : Nat) (message : Bytes) (outbox : Outbox) :
    (∃ n, (outbox.deliver peer packetSize message).1 = .ok n) ∨
      Failed (outbox.deliver peer packetSize message).1 := by
  have sending := deliver_sending peer packetSize message outbox
  generalize outbox.deliver peer packetSize message = sent at sending ⊢
  cases sending with
  | whole => exact .inl ⟨_, rfl⟩
  | unflushed => exact .inr ⟨_, rfl, by simp⟩
  | front _ _ _ _ _ begun => exact .inr ⟨_, rfl, begun⟩

/-- A response that is encoded has a header at least. -/
theorem length_pos_of_encode {response : Response} {message : Bytes}
    (encoded : response.encode = .ok message) : 0 < message.length := by
  obtain ⟨header, payload, -, -, -, rfl⟩ := Response.encode_eq_ok encoded
  rw [List.length_append, header.length_encode]
  exact Nat.lt_of_lt_of_le (by decide) (Nat.le_add_right responseHeaderSize payload.length)

/-- The packets of a response, put together, are the response filled up to one packet. -/
theorem flatten_split_of_encode {response : Response} {message : Bytes} (packetSize : Nat)
    (encoded : response.encode = .ok message) :
    (Framing.split packetSize message).flatten
      = message ++ List.replicate (packetSize - message.length) 0 := by
  -- A size of zero counts as one, which no response is shorter than.
  have size : Framing.effectiveSize packetSize - message.length = packetSize - message.length := by
    have some_ := length_pos_of_encode encoded
    rw [Framing.effectiveSize]
    omega
  rw [Framing.flatten_split, Bytes.padTo, size]

/-- What the writes of a response with an encoding are offered and take, and what they lead to. -/
theorem send_of_encode (peer : Peer) (packetSize : Nat) {response : Response} {message : Bytes}
    (outbox : Outbox) (encoded : response.encode = .ok message) :
    let sent := outbox.send peer packetSize response
    let writes := outbox.sendWrites peer packetSize response
    let bytes := message ++ List.replicate (packetSize - message.length) 0
    InTurn peer outbox.sizes bytes writes ∧ writes ≠ [] ∧
      sent.2.taken = outbox.taken ++ writes.flatMap Write.taken ∧
      sent.2.sizes = outbox.sizes ++ writes.flatMap Write.sizes ∧
      ((∃ n, sent.1 = .ok n) ∨ Failed sent.1) ∧
      ∀ n, sent.1 = .ok n ↔
        sent.2.taken = outbox.taken ++ bytes ∧ peer.flush sent.2.sizes = none ∧
          n = bytes.length := by
  have some_ := List.ne_nil_of_length_pos (length_pos_of_encode encoded)
  obtain ⟨inTurn, begun, taken, sizes⟩ :=
    writePackets_told peer (Framing.split packetSize message) outbox
  have outcome := deliver_eq_ok_iff peer packetSize message outbox
  rw [← outbox_deliver] at taken sizes
  rw [flatten_split_of_encode packetSize encoded] at outcome inTurn begun
  simp only [send, sendWrites, encoded]
  exact ⟨inTurn, fun none => some_ (List.append_eq_nil_iff.1 (begun none)).1, taken, sizes,
    deliver_ok_or_failed peer packetSize message outbox, outcome⟩

/-- A response without an encoding is not begun: it is reported and there is no write, which is so
of no other response. Of any other one the bytes are filled up to a packet with as few zero bytes as
it takes. Whatever the other side makes of the writes, what they take is a front of these bytes, and
it is what goes out, in pieces as long as each write took. Every write is offered what follows the
bytes that the writes before it took, so nothing is offered again once it is taken, and a write that
takes nothing is the last one and ends the sending in failure. The sending succeeds exactly if all
bytes are taken and the flush does not fail, and then states how many there are; otherwise it is
reported that it failed. -/
theorem send_whole_or_front (peer : Peer) (packetSize : Nat) (response : Response)
    (outbox : Outbox) :
    let sent := outbox.send peer packetSize response
    let writes := outbox.sendWrites peer packetSize response
    ((∃ wire, sent.1 = .error (.notEncoded wire)) ↔ ∃ wire, response.encode = .error wire) ∧
      (writes = [] ↔ ∃ wire, response.encode = .error wire) ∧
      (∀ wire, response.encode = .error wire → sent.2 = outbox) ∧
      ∀ message, response.encode = .ok message →
        let bytes := message ++ List.replicate (packetSize - message.length) 0
        (writes.flatMap Write.taken <+: bytes ∧
          sent.2.taken = outbox.taken ++ writes.flatMap Write.taken ∧
          sent.2.sizes = outbox.sizes ++ writes.flatMap Write.sizes) ∧
        (∀ before write after, writes = before ++ write :: after →
          write.offered ≠ [] ∧ before.flatMap Write.taken ++ write.offered <+: bytes ∧
            write.fate = peer.write (outbox.sizes ++ before.flatMap Write.sizes) ∧
            (write.taken = [] → after = [] ∧ Failed sent.1)) ∧
        (∀ n, sent.1 = .ok n ↔
          sent.2.taken = outbox.taken ++ bytes ∧ peer.flush sent.2.sizes = none ∧
            n = max packetSize message.length) ∧
        ((¬ ∃ n, sent.1 = .ok n) → Failed sent.1) := by
  intro sent writes
  cases encoded : response.encode with
  | error wire =>
    have unsent : sent = (.error (.notEncoded wire), outbox) := by
      simp only [sent, send, encoded]
    have unwritten : writes = [] := by
      simp only [writes, sendWrites, encoded]
    simp [unsent, unwritten]
  | ok message =>
    obtain ⟨inTurn, begun, taken, sizes, ended, succeeds⟩ :=
      send_of_encode peer packetSize outbox encoded
    have width : (message ++ List.replicate (packetSize - message.length) 0).length
        = max packetSize message.length := by
      rw [List.length_append, List.length_replicate]
      omega
    rw [width] at succeeds
    refine ⟨⟨?_, by simp⟩, by simpa using begun, by simp, ?_⟩
    · rintro ⟨wire, unencoded⟩
      obtain ⟨n, done⟩ | ⟨cause, failed, begun⟩ := ended
      · cases done.symm.trans unencoded
      · cases failed.symm.trans unencoded
        exact absurd rfl (begun wire)
    rintro _ ⟨⟩
    refine ⟨⟨inTurn.taken_prefix, taken, sizes⟩, ?_, succeeds, ended.resolve_left⟩
    -- a write is looked at within the row of all writes, which is in turn
    intro before write after split
    rw [show outbox.sendWrites peer packetSize response = before ++ write :: after from split]
      at inTurn taken
    obtain ⟨some_, behind, fate, last⟩ := inTurn.at_write
    refine ⟨some_, behind, fate, fun nothing => ⟨last nothing, ended.resolve_left ?_⟩⟩
    -- Had the sending succeeded, all bytes would be taken, and every write had taken some.
    rintro ⟨n, done⟩
    have all := List.append_cancel_left (taken.symm.trans ((succeeds n).1 done).1)
    exact inTurn.taken_ne_nil all write (by simp) nothing

/-- Two writes, of which the second takes nothing. -/
example :
    let peer : Peer := ⟨fun sizes => if sizes = [] then .takes 5 else .takes 0, fun _ => none⟩
    (Outbox.empty.sendWrites peer 8 .genericError).map Write.taken = [[2, 40, 35, 0, 0], []] := by
  decide +kernel

end Outbox

end MessageRelay.Connection
