import MessageRelay.Connection.Outbox

/-!
# What goes out on a connection

Whatever the other side makes of the single writes, the bytes that it takes are the front of those
that were to be written, and all of them exactly if the writing came to its end. So what goes out of
a response is the front of its packets, put together (`send_sending`). To a side that always takes
something and never fails it is all of them (`send_of_steady`).
-/

set_option autoImplicit false

namespace MessageRelay.Connection

open Protocol

/-- The bytes in which the relay sends a response: its packets, put together. -/
def framed (packetSize : Nat) (response : Response) : Except WireError Bytes :=
  response.encode.map fun message => (Framing.split packetSize message).flatten

namespace Outbox

/-- What became of bytes that were to be written. -/
inductive Writing (bytes : Bytes) (outbox : Outbox) : Except SendError Unit × Outbox → Prop where
  | all {outbox' : Outbox} (taken : outbox'.taken = outbox.taken ++ bytes) :
      Writing bytes outbox (.ok (), outbox')
  /-- A write failed or took nothing while there were bytes behind the front. -/
  | front {cause : SendError} {outbox' : Outbox} (front back : Bytes) (joined : front ++ back = bytes)
      (more : back ≠ []) (taken : outbox'.taken = outbox.taken ++ front)
      (begun : ∀ wire, cause ≠ .notEncoded wire) : Writing bytes outbox (.error cause, outbox')

/-- Bytes are written behind those that were all taken. -/
theorem Writing.behind {bytes more : Bytes} {outbox middle : Outbox}
    {result : Except SendError Unit × Outbox} (h : Writing more middle result)
    (first : middle.taken = outbox.taken ++ bytes) : Writing (bytes ++ more) outbox result := by
  cases h with
  | all taken => exact .all (by rw [taken, first, List.append_assoc])
  | front front back joined more taken begun =>
    refine .front (bytes ++ front) back ?_ more ?_ begun
    · rw [List.append_assoc, joined]
    · rw [taken, first, List.append_assoc]

/-- Writing all of a byte string either takes all of it or ends with a front of it taken. -/
theorem writeAll_writing (peer : Peer) (bytes : Bytes) (outbox : Outbox) :
    Writing bytes outbox (outbox.writeAll peer bytes) := by
  fun_induction writeAll peer bytes outbox with
  | case1 outbox => exact .all (List.append_nil _).symm
  | case2 bytes outbox some_ fault _ =>
    exact .front [] bytes rfl some_ (List.append_nil _).symm (by simp)
  | case3 bytes outbox some_ _ => exact .all (by rw [take, List.take_length])
  | case4 bytes outbox some_ _ => exact .front [] bytes rfl some_ rfl (by simp)
  | case5 bytes outbox some_ limit _ positive ih =>
    have first : (outbox.take limit bytes).taken = outbox.taken ++ bytes.take limit := rfl
    have whole := ih.behind first
    rwa [List.take_append_drop] at whole

/-- Writing packets one after the other is writing what they join up to. -/
theorem writePackets_writing (peer : Peer) (packets : List Bytes) (outbox : Outbox) :
    Writing packets.flatten outbox (outbox.writePackets peer packets) := by
  induction packets generalizing outbox with
  | nil => exact .all (List.append_nil _).symm
  | cons packet packets ih =>
    have written := writeAll_writing peer packet outbox
    rw [writePackets, List.flatten_cons]
    generalize outbox.writeAll peer packet = result at written
    cases written with
    | all taken => exact (ih _).behind taken
    | front front back joined more taken begun =>
      refine .front front (back ++ packets.flatten) ?_ ?_ taken begun
      · rw [← List.append_assoc, joined]
      · exact List.append_ne_nil_of_left_ne_nil more _

/-- What became of a response that was to be sent in these bytes. -/
inductive Sending (peer : Peer) (bytes : Bytes) (outbox : Outbox) :
    Except SendError Nat × Outbox → Prop where
  | whole {outbox' : Outbox} (taken : outbox'.taken = outbox.taken ++ bytes) :
      Sending peer bytes outbox (.ok bytes.length, outbox')
  | unflushed {fault : SocketFault} {outbox' : Outbox} (flush : peer.flush outbox'.sizes = some fault)
      (taken : outbox'.taken = outbox.taken ++ bytes) :
      Sending peer bytes outbox (.error (.socket fault), outbox')
  | front {cause : SendError} {outbox' : Outbox} (front back : Bytes) (joined : front ++ back = bytes)
      (more : back ≠ []) (taken : outbox'.taken = outbox.taken ++ front)
      (begun : ∀ wire, cause ≠ .notEncoded wire) : Sending peer bytes outbox (.error cause, outbox')

/-- A delivered message either goes out as all of its packets or ends within them. -/
theorem deliver_sending (peer : Peer) (packetSize : Nat) (message : Bytes) (outbox : Outbox) :
    Sending peer (Framing.split packetSize message).flatten outbox
      (outbox.deliver peer packetSize message) := by
  have written := writePackets_writing peer (Framing.split packetSize message) outbox
  simp only [deliver]
  generalize outbox.writePackets peer (Framing.split packetSize message) = result at written
  cases written with
  | front front back joined more taken begun => exact .front front back joined more taken begun
  | @all outbox' taken =>
    simp only
    cases flush : peer.flush outbox'.sizes with
    | some fault => exact .unflushed flush taken
    | none => exact .whole taken

/-- A response without an encoding is not begun. -/
theorem send_of_not_framed {packetSize : Nat} {response : Response} {wire : WireError} (peer : Peer)
    (outbox : Outbox) (h : framed packetSize response = .error wire) :
    outbox.send peer packetSize response = (.error (.notEncoded wire), outbox) := by
  unfold framed at h
  cases encoded : response.encode with
  | ok message =>
    rw [encoded] at h
    cases h
  | error cause =>
    rw [encoded] at h
    cases h
    simp only [send, encoded]

/-- A response that went out has an encoding. -/
theorem exists_encode_of_send {peer : Peer} {packetSize n : Nat} {response : Response}
    {outbox : Outbox} (h : (outbox.send peer packetSize response).1 = .ok n) :
    ∃ message, response.encode = .ok message := by
  unfold send at h
  split at h
  · cases h
  · rename_i message encoded
    exact ⟨message, encoded⟩

/-- A response that has a framing either goes out as all of it or ends within it. -/
theorem send_sending {packetSize : Nat} {response : Response} {bytes : Bytes} (peer : Peer)
    (outbox : Outbox) (h : framed packetSize response = .ok bytes) :
    Sending peer bytes outbox (outbox.send peer packetSize response) := by
  unfold framed at h
  cases encoded : response.encode with
  | error cause =>
    rw [encoded] at h
    cases h
  | ok message =>
    rw [encoded] at h
    cases h
    simp only [send, encoded]
    exact deliver_sending peer packetSize message outbox

end Outbox

/-! ## Without failures -/

/-- A side on which no write fails or takes nothing, and no flush fails. -/
structure Peer.Steady (peer : Peer) : Prop where
  taking : ∀ sizes, peer.write sizes ≠ .takes 0
  unfailing : ∀ sizes fault, peer.write sizes ≠ .fails fault
  flushing : ∀ sizes, peer.flush sizes = none

/-- A peer that takes every write as a whole is steady. -/
theorem Peer.steady_willing : Peer.willing.Steady where
  taking _ h := by cases h
  unfailing _ _ h := by cases h
  flushing _ := rfl

namespace Outbox

variable {peer : Peer}

/-- A steady peer takes a byte string as a whole. -/
theorem writeAll_of_steady (steady : peer.Steady) (bytes : Bytes) (outbox : Outbox) :
    (outbox.writeAll peer bytes).1 = .ok () := by
  fun_induction writeAll peer bytes outbox with
  | case1 | case3 => rfl
  | case2 bytes outbox some_ fault failed => exact absurd failed (steady.unfailing _ fault)
  | case4 bytes outbox some_ stalled => exact absurd stalled (steady.taking _)
  | case5 bytes outbox some_ limit takes positive ih => exact ih

/-- A steady peer takes packets to the last one. -/
theorem writePackets_of_steady (steady : peer.Steady) (packets : List Bytes) (outbox : Outbox) :
    (outbox.writePackets peer packets).1 = .ok () := by
  induction packets generalizing outbox with
  | nil => rfl
  | cons packet packets ih =>
    have written := writeAll_of_steady steady packet outbox
    rw [writePackets]
    generalize outbox.writeAll peer packet = result at written ⊢
    obtain ⟨_, middle⟩ := result
    cases written
    exact ih middle

/-- A response that has an encoding goes out to the end. -/
theorem send_of_steady (steady : peer.Steady) (packetSize : Nat) {response : Response}
    {message : Bytes} (encoded : response.encode = .ok message) (outbox : Outbox) :
    ∃ size, (outbox.send peer packetSize response).1 = .ok size := by
  have written := writePackets_of_steady steady (Framing.split packetSize message) outbox
  simp only [send, encoded, deliver]
  generalize outbox.writePackets peer (Framing.split packetSize message) = result at written ⊢
  obtain ⟨_, middle⟩ := result
  cases written
  simp only [steady.flushing]
  exact ⟨_, rfl⟩

end Outbox

end MessageRelay.Connection
