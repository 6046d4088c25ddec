import MessageRelay.Client.Reception
import MessageRelay.Proofs.Connection.Reassembly
import MessageRelay.Proofs.Protocol.Packets
import MessageRelay.Proofs.Protocol.ResponseRoundTrip

/-!
# Receiving what the relay framed

A client gathers the pieces in which a framed response arrives. However the bytes are divided, it
has the header as soon as seven bytes are there and the response as soon as the payload is there,
whatever padding came with them (`receive_framed`). A connection that ends before is told from one
that ends within the payload.

Gathering is followed with a free division of the bytes: what it has taken and what is left join up
to what there was, so the second gathering starts from any buffer that the first one leaves.
-/

set_option autoImplicit false

namespace MessageRelay.Client.Reception

open Connection
open Protocol

/-- A read takes the first piece or the front of it, and only the end of the connection gives an
empty one. -/
theorem read_ofReads {room : Nat} (positive : 0 < room) {reads : List Bytes}
    (nonempty : ∀ read ∈ reads, read ≠ []) :
    ∃ part later, (Incoming.ofReads reads).read room = (.ok part, .ofReads later) ∧
      part ++ later.flatten = reads.flatten ∧ (part = [] → reads = []) ∧
      ∀ read ∈ later, read ≠ [] := by
  cases reads with
  | nil => exact ⟨[], [], rfl, rfl, fun _ => rfl, nonempty⟩
  | cons first reads =>
    have others : ∀ read ∈ reads, read ≠ [] := fun read hr =>
      nonempty read (List.mem_cons_of_mem first hr)
    have some_ := nonempty first List.mem_cons_self
    by_cases fits : first.length ≤ room
    · refine ⟨first, reads, ?_, rfl, fun none => absurd none some_, others⟩
      simp [Incoming.ofReads, Incoming.read, fits]
    · refine ⟨first.take room, first.drop room :: reads, ?_, ?_, ?_, ?_⟩
      · simp [Incoming.ofReads, Incoming.read, fits]
      · rw [List.flatten_cons, ← List.append_assoc, List.take_append_drop, List.flatten_cons]
      · intro none
        rw [List.take_eq_nil_iff] at none
        obtain zero | empty := none
        · omega
        · exact absurd empty some_
      · intro read hr
        obtain rfl | hr := List.mem_cons.1 hr
        · rw [Ne, List.drop_eq_nil_iff]
          exact fits
        · exact others read hr

/-- Gathering takes pieces up to some point behind the goal, or all of them. -/
theorem gather_ofReads (goal : Nat) (buffer : Bytes) {reads : List Bytes}
    (nonempty : ∀ read ∈ reads, read ≠ []) :
    ∃ part later, part ++ later.flatten = reads.flatten ∧ (∀ read ∈ later, read ≠ []) ∧
      (goal ≤ (buffer ++ part).length ∧
          gather goal buffer (.ofReads reads) = (.ok (buffer ++ part), .ofReads later) ∨
        (buffer ++ part).length < goal ∧ later = [] ∧
          (gather goal buffer (.ofReads reads)).1 = .error (.closed (buffer ++ part).length)) := by
  generalize hi : Incoming.ofReads reads = incoming
  fun_induction gather goal buffer incoming generalizing reads with
  | case1 buffer incoming reached =>
    refine ⟨[], reads, rfl, nonempty, .inl ?_⟩
    rw [List.append_nil, hi]
    exact ⟨reached, rfl⟩
  | case2 buffer incoming missing fault rest hr =>
    obtain ⟨part, later, taken, -⟩ := read_ofReads (show 0 < packetSize by decide) nonempty
    rw [hi, hr] at taken
    cases taken
  | case3 buffer incoming missing rest hr =>
    obtain ⟨part, later, taken, -, ended, -⟩ :=
      read_ofReads (show 0 < packetSize by decide) nonempty
    rw [hi, hr] at taken
    cases taken
    refine ⟨[], [], by rw [ended rfl]; rfl, by simp, .inr ?_⟩
    rw [List.append_nil]
    exact ⟨by omega, rfl, rfl⟩
  | case4 buffer incoming missing bytes rest hr some_ ih =>
    obtain ⟨part, later, taken, joined, -, others⟩ :=
      read_ofReads (show 0 < packetSize by decide) nonempty
    rw [hi, hr] at taken
    cases taken
    obtain ⟨more, last, rejoined, others, gathered⟩ := ih others rfl
    refine ⟨bytes ++ more, last, ?_, others, ?_⟩
    · rw [List.append_assoc, rejoined, joined]
    · rw [← List.append_assoc]
      exact gathered

/-- Pieces that bring enough are taken up to some point behind the goal. -/
theorem gather_enough {goal : Nat} {buffer : Bytes} {reads : List Bytes}
    (nonempty : ∀ read ∈ reads, read ≠ [])
    (enough : goal ≤ buffer.length + reads.flatten.length) :
    ∃ part later, gather goal buffer (.ofReads reads) = (.ok (buffer ++ part), .ofReads later) ∧
      part ++ later.flatten = reads.flatten ∧ goal ≤ (buffer ++ part).length ∧
      ∀ read ∈ later, read ≠ [] := by
  obtain ⟨part, later, joined, others, ⟨reached, gathered⟩ | ⟨short, rfl, -⟩⟩ :=
    gather_ofReads goal buffer nonempty
  · exact ⟨part, later, gathered, joined, reached, others⟩
  · rw [List.flatten_nil, List.append_nil] at joined
    rw [joined, List.length_append] at short
    omega

/-- Pieces that do not bring enough are all taken. -/
theorem gather_short {goal : Nat} {buffer : Bytes} {reads : List Bytes}
    (nonempty : ∀ read ∈ reads, read ≠ [])
    (short : buffer.length + reads.flatten.length < goal) :
    (gather goal buffer (.ofReads reads)).1
      = .error (.closed (buffer.length + reads.flatten.length)) := by
  obtain ⟨part, later, joined, -, ⟨reached, -⟩ | ⟨-, rfl, gathered⟩⟩ :=
    gather_ofReads goal buffer nonempty
  · rw [List.length_append] at reached
    rw [← joined, List.length_append] at short
    omega
  · rw [List.flatten_nil, List.append_nil] at joined
    rw [gathered, joined, List.length_append]

/-- What has arrived of a stream that starts with a front starts with it too, if it is long
enough. -/
theorem front_of_prefix {front rest part : Bytes} (h : part <+: front ++ rest)
    (long : front.length ≤ part.length) : ∃ more, part = front ++ more ∧ more <+: rest := by
  obtain ⟨more, rfl⟩ := List.prefix_of_prefix_length_le (List.prefix_append front rest) h long
  exact ⟨more, rfl, (List.prefix_append_right_inj front).1 h⟩

/-- As soon as enough has arrived, the header is gathered, with what comes along behind it. -/
theorem exists_gathered_header {header : ResponseHeader} {stream : Bytes} {reads : List Bytes}
    (sent : reads.flatten <+: header.encode ++ stream)
    (enough : responseHeaderSize ≤ reads.flatten.length) (nonempty : ∀ read ∈ reads, read ≠ []) :
    ∃ front later,
      gather responseHeaderSize [] (.ofReads reads) = (.ok (header.encode ++ front), .ofReads later) ∧
        header.encode ++ front ++ later.flatten = reads.flatten ∧ ∀ read ∈ later, read ≠ [] := by
  obtain ⟨part, later, gathered, rejoined, reached, others⟩ :=
    gather_enough nonempty
      (show responseHeaderSize ≤ ([] : Bytes).length + reads.flatten.length by
        rwa [List.length_nil, Nat.zero_add])
  rw [List.nil_append] at gathered reached
  obtain ⟨front, rfl, -⟩ := front_of_prefix
    ((List.prefix_append part later.flatten).trans (rejoined ▸ sent))
    (header.length_encode ▸ reached)
  exact ⟨front, later, gathered, rejoined, others⟩

/-- Once the header is there, the payload is gathered behind it. -/
theorem receive_of_header {incoming rest : Incoming} {buffer : Bytes} {header : ResponseHeader}
    (gathered : gather responseHeaderSize [] incoming = (.ok buffer, rest))
    (decoded : ResponseHeader.decode buffer = .ok header) :
    receive incoming
      = ((gather (responseHeaderSize + header.payloadSize.toNat) buffer rest).1.mapError
          (payloadError header.payloadSize.toNat)).bind fun whole =>
            (Response.decode header (whole.drop responseHeaderSize)).mapError .wire := by
  have behind : receive incoming = ((ResponseHeader.decode buffer).mapError ClientError.wire).bind
      fun header => ((gather (responseHeaderSize + header.payloadSize.toNat) buffer rest).1.mapError
        (payloadError header.payloadSize.toNat)).bind fun whole =>
          (Response.decode header (whole.drop responseHeaderSize)).mapError .wire := by
    rw [receive, gathered]
    rfl
  rw [behind, decoded]
  rfl

/-- A connection that brings nothing brings no response. -/
theorem receive_of_nothing : receive (.ofReads []) = .error .noResponse := by
  have none := gather_short (fun read hr => absurd hr List.not_mem_nil)
    (show ([] : Bytes).length + ([] : List Bytes).flatten.length < responseHeaderSize by decide)
  rw [receive]
  simp only [none]
  rfl

/-- A response is received as soon as it is there whole, whatever comes behind it. -/
theorem receive_of_prefix {response : Response} {message : Bytes} {reads : List Bytes}
    (encoded : response.encode = .ok message) (plain : response.HasPlainNames)
    (arrived : message <+: reads.flatten) (nonempty : ∀ read ∈ reads, read ≠ []) :
    receive (.ofReads reads) = .ok response := by
  obtain ⟨header, payload, filled, code, size, rfl⟩ := Response.encode_eq_ok encoded
  obtain ⟨behind, stream⟩ := arrived
  have width := header.length_encode
  have total : responseHeaderSize + payload.length ≤ reads.flatten.length := by
    rw [← stream, List.length_append, List.length_append, width]
    omega
  rw [List.append_assoc] at stream
  obtain ⟨front, later, gathered, rejoined, others⟩ :=
    exists_gathered_header ⟨[], (List.append_nil _).trans stream.symm⟩ (by omega) nonempty
  obtain ⟨more, last, gathered', rejoined', reached', -⟩ :=
    gather_enough others
      (show responseHeaderSize + payload.length
          ≤ (header.encode ++ front).length + later.flatten.length by
        rwa [← List.length_append, rejoined])
  -- behind the header stands what was gathered of the payload and of what follows it
  have whole : front ++ more <+: payload ++ behind := by
    have joined : header.encode ++ (front ++ more ++ last.flatten)
        = header.encode ++ (payload ++ behind) := by
      rw [stream, ← rejoined, ← rejoined']
      simp only [List.append_assoc]
    exact ⟨last.flatten, List.append_cancel_left joined⟩
  obtain ⟨rest, content, -⟩ := front_of_prefix whole (by
    rw [List.append_assoc, List.length_append, width] at reached'
    omega)
  have read := Response.decode_of_encodePayload filled plain code size rest
  rw [receive_of_header gathered (header.decode_encode front), size, gathered']
  show (Response.decode header
    ((header.encode ++ front ++ more).drop responseHeaderSize)).mapError ClientError.wire = _
  rw [List.append_assoc, content, ← width, List.drop_left, read]
  rfl

/-- A client reads the front of a framed response the same way however it is divided: it finds no
response before the header is there, a truncated one before the payload is there, and the response
afterwards. -/
theorem receive_framed {response : Response} {message payload : Bytes}
    (encoded : response.encode = .ok message) (filled : response.encodePayload = .ok payload)
    (plain : response.HasPlainNames) (packetSize k : Nat) (reads : List Bytes)
    (joined : reads.flatten = (Framing.split packetSize message).flatten.take k)
    (nonempty : ∀ read ∈ reads, read ≠ []) :
    receive (.ofReads reads) =
      if k < responseHeaderSize then .error .noResponse
      else if k < responseHeaderSize + payload.length then
        .error (.truncated payload.length (k - responseHeaderSize))
      else .ok response := by
  obtain ⟨header, _, hp, code, size, rfl⟩ := Response.encode_eq_ok encoded
  cases filled.symm.trans hp
  obtain ⟨padding, stream⟩ : ∃ padding, (Framing.split packetSize (header.encode ++ payload)).flatten
      = header.encode ++ (payload ++ padding) :=
    ⟨_, by rw [Framing.flatten_split, Bytes.padTo, List.append_assoc]⟩
  have width := header.length_encode
  have sent : reads.flatten <+: header.encode ++ (payload ++ padding) := by
    rw [joined, stream]
    exact List.take_prefix k _
  have arrived : reads.flatten.length
      = min k (responseHeaderSize + (payload.length + padding.length)) := by
    rw [joined, stream, List.length_take, List.length_append, List.length_append, width]
  -- the front ends within the header, within the payload, or behind both
  by_cases noHeader : k < responseHeaderSize
  · have none := gather_short nonempty
      (show ([] : Bytes).length + reads.flatten.length < responseHeaderSize by
        rw [List.length_nil]
        omega)
    rw [if_pos noHeader, receive]
    simp only [none]
    rfl
  rw [if_neg noHeader]
  by_cases noPayload : k < responseHeaderSize + payload.length
  · obtain ⟨front, later, gathered, rejoined, others⟩ :=
      exists_gathered_header sent (by omega) nonempty
    have remaining : (header.encode ++ front).length + later.flatten.length
        = reads.flatten.length := by
      rw [← List.length_append, rejoined]
    have none := gather_short others (show (header.encode ++ front).length + later.flatten.length
      < responseHeaderSize + payload.length by omega)
    have received : reads.flatten.length = k := by omega
    rw [remaining, received] at none
    rw [if_pos noPayload, receive_of_header gathered (header.decode_encode front), size, none]
    rfl
  · have whole : header.encode ++ payload <+: reads.flatten := by
      rw [joined, stream, ← List.append_assoc, List.prefix_take_iff, List.length_append, width]
      exact ⟨List.prefix_append _ _, Nat.le_of_not_lt noPayload⟩
    rw [if_neg noPayload]
    exact receive_of_prefix encoded plain whole nonempty

/-- A response that arrives in three pieces, the first of them within the header and the last with
padding in it. -/
theorem receive_framed_messageSent :
    ∃ message, (Response.messageSent .unregistered 5).encode = .ok message ∧
      receive (.ofReads [message.take 3, (message.drop 3).take 20,
        message.drop 23 ++ List.replicate 5 0]) = .ok (.messageSent .unregistered 5) := by
  have encoded : (Response.messageSent .unregistered 5).encode = .ok _ := rfl
  exact ⟨_, encoded, receive_framed encoded rfl trivial 32 32 _
    (by rw [Framing.flatten_split]; decide) (by decide)⟩

end MessageRelay.Client.Reception
