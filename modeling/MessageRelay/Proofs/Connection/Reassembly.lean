import MessageRelay.Connection.Intake
import MessageRelay.Proofs.Protocol.RequestRoundTrip

/-!
# Putting a request together from any reads

A request and the padding behind it arrive in reads of any size, the first of which brings the
header. Filling up to a goal keeps the bytes up to the goal and drops what the last read brought
beyond it (`overrun`, `fill_ofReads`). Every request but a message is filled up to once, so nothing
that it needs is dropped. A message is filled up to twice, first to the end of its prelude: content
that comes in the continuation read which ends the prelude is dropped, and the bytes behind it are
taken for the content (`readBody_sendMessage`). So a message is put together right exactly if its
content reads the same with the overrun left out (`readBody_eq_ok_iff`), and every request is if the
first read brings the prelude too (`readBody_of_encodeBody`).
-/

set_option autoImplicit false

namespace MessageRelay.Connection

open Protocol

/-! ## Steps of putting a request together -/

namespace Assembling

variable {α β : Type}

/-- What a step gives and where it leaves the intake. -/
def outcome (step : Assembling α) (intake : Intake) : Except ReadError α × Intake :=
  step.run.run intake

/-- Two steps in a row: the second one goes on with the intake that the first one leaves, unless
that one fails. -/
theorem outcome_bind (step : Assembling α) (next : α → Assembling β) (intake : Intake) :
    (step >>= next).outcome intake =
      match step.outcome intake with
      | (.error e, intake') => (.error e, intake')
      | (.ok a, intake') => (next a).outcome intake' := by
  simp only [outcome, ExceptT.run_bind, StateT.run_bind]
  show (match step.run.run intake with
    | (result, intake') => _) = _
  rcases step.run.run intake with ⟨_ | _, _⟩ <;> rfl

/-- A step that only gives a value leaves the intake as it is. -/
@[simp] theorem outcome_pure (a : α) (intake : Intake) :
    (pure a : Assembling α).outcome intake = (.ok a, intake) := rfl

/-- Looking at the intake gives it and leaves it as it is. -/
@[simp] theorem outcome_get (intake : Intake) :
    (get : Assembling Intake).outcome intake = (.ok intake, intake) := rfl

/-- What is decoded well is given, and the intake stays as it is. -/
@[simp] theorem outcome_lift_ok (a : α) (intake : Intake) :
    (Intake.lift (.ok a)).outcome intake = (.ok a, intake) := rfl

/-- What is decoded badly makes the request malformed, and the intake stays as it is. -/
theorem outcome_lift (result : Except WireError α) (intake : Intake) :
    (Intake.lift result).outcome intake = (result.mapError .malformed, intake) := by
  cases result <;> rfl

/-- Filling up within a request is filling up the intake. -/
@[simp] theorem outcome_fillTo (goal : Nat) (intake : Intake) :
    (Intake.fillTo goal).outcome intake = Intake.fill goal intake := rfl

end Assembling

/-! ## Bytes in reads -/

/-- What a read brings was still to be read. -/
theorem Incoming.remaining_of_read {room : Nat} {incoming rest : Incoming} {bytes : Bytes}
    (h : incoming.read room = (.ok bytes, rest)) :
    incoming.remaining = bytes ++ rest.remaining := by
  unfold read at h
  split at h
  · cases h
    rfl
  · cases h
  · rename_i chunk later
    split at h
    · cases h
      simp [remaining]
    · cases h
      simp [remaining, ← List.append_assoc]

/-- A connection that is read in the given pieces and then ends. -/
def Incoming.ofReads (reads : List Bytes) : Incoming :=
  reads.map .chunk

/-- The pieces are the bytes of a stream, and each is what a read with some room can bring. -/
structure Division (room : Nat) (stream : Bytes) (reads : List Bytes) : Prop where
  joined : reads.flatten = stream
  nonempty : ∀ read ∈ reads, read ≠ []
  fits : ∀ read ∈ reads, read.length ≤ room

/-- The reads that are still to be made once they have brought `need` bytes. -/
def readsAfter : Nat → List Bytes → List Bytes
  | 0, reads => reads
  | _ + 1, [] => []
  | need + 1, read :: reads => readsAfter (need + 1 - read.length) reads

/-- How many bytes the read that completes `need` bytes brings beyond them. -/
def overrun : Nat → List Bytes → Nat
  | 0, _ => 0
  | _ + 1, [] => 0
  | need + 1, read :: reads =>
    if need + 1 ≤ read.length then read.length - (need + 1)
    else overrun (need + 1 - read.length) reads

/-- Beyond what was needed the later reads lack the overrun and nothing else. -/
theorem flatten_readsAfter (need : Nat) (reads : List Bytes) :
    (readsAfter need reads).flatten = reads.flatten.drop (need + overrun need reads) := by
  induction reads generalizing need with
  | nil => cases need <;> simp [readsAfter, overrun]
  | cons read reads ih =>
    cases need with
    | zero => simp [readsAfter, overrun]
    | succ need =>
      rw [readsAfter, overrun, ih, List.flatten_cons]
      by_cases h : need + 1 ≤ read.length
      · have h0 : need + 1 - read.length = 0 := by omega
        have hd : need + 1 + (read.length - (need + 1)) = read.length := by omega
        rw [if_pos h, h0, hd, List.drop_left]
        simp [overrun]
      · rw [if_neg h, List.drop_append]
        have h1 : read.drop (need + 1 + overrun (need + 1 - read.length) reads) = [] := by
          apply List.drop_of_length_le
          omega
        rw [h1, List.nil_append]
        congr 1
        omega

/-- The reads that are left after filling up are among those that were to come. -/
theorem mem_of_mem_readsAfter (need : Nat) {reads : List Bytes} {read : Bytes}
    (h : read ∈ readsAfter need reads) : read ∈ reads := by
  induction reads generalizing need with
  | nil => cases need <;> simp [readsAfter] at h
  | cons first reads ih =>
    cases need with
    | zero => exact h
    | succ need => exact List.mem_cons_of_mem _ (ih _ h)

namespace Intake

/-- Reading a packet is one read, the bytes of which are kept behind the others. -/
theorem outcome_readPacket (intake : Intake) :
    readPacket.outcome intake =
      match intake.incoming.read intake.room with
      | (.error fault, rest) => (.error (.socket fault), { intake with incoming := rest })
      | (.ok bytes, rest) =>
        (.ok (), { intake with buffer := intake.buffer ++ bytes, incoming := rest }) := by
  rw [readPacket, Assembling.outcome_bind, Assembling.outcome_get]
  simp only
  obtain ⟨_ | _, _⟩ := intake.incoming.read intake.room <;> rfl

/-- While the header is not known it is read off all that is kept once one more read is made. -/
theorem outcome_readHeader_of_unknown {intake : Intake} (unknown : intake.header? = none) :
    readHeader.outcome intake =
      match intake.incoming.read intake.room with
      | (.error fault, rest) => (.error (.socket fault), { intake with incoming := rest })
      | (.ok bytes, rest) =>
        match RequestHeader.decode (intake.buffer ++ bytes) with
        | .error cause => (.error (.malformed cause),
            { intake with buffer := intake.buffer ++ bytes, incoming := rest })
        | .ok header => (.ok header, { intake with
            buffer := intake.buffer ++ bytes
            header? := some header
            incoming := rest }) := by
  rw [readHeader, Assembling.outcome_bind, Assembling.outcome_get]
  simp only [unknown, Assembling.outcome_bind, outcome_readPacket]
  obtain ⟨_ | bytes, rest⟩ := intake.incoming.read intake.room
  · rfl
  · simp only [Assembling.outcome_get, Assembling.outcome_lift]
    cases RequestHeader.decode (intake.buffer ++ bytes) <;> rfl

/-- A header that is known is not read again. -/
theorem outcome_readHeader_of_known {intake : Intake} {header : RequestHeader}
    (known : intake.header? = some header) : readHeader.outcome intake = (.ok header, intake) := by
  rw [readHeader, Assembling.outcome_bind, Assembling.outcome_get]
  simp only [known, Assembling.outcome_pure]

/-- Behind a known header the body is as large as its first part declares, and is decoded from what
is kept behind the header. -/
theorem outcome_readBody_of_known {intake : Intake} {header : RequestHeader}
    (known : intake.header? = some header) (code : RequestCode) :
    (readBody code).outcome intake = (do
        let size ← bodySize code
        fillTo (requestHeaderSize + size)
        lift (Request.decodeBody code ((← get).buffer.drop requestHeaderSize)) :
        Assembling Request).outcome intake := by
  rw [readBody, Assembling.outcome_bind, outcome_readHeader_of_known known]

/-- Nothing is read if enough is kept. -/
theorem fill_of_le (goal : Nat) (intake : Intake) (h : goal ≤ intake.buffer.length) :
    fill goal intake = (.ok (), intake) := by
  rw [fill, dif_pos h]

/-- As long as too little is kept, a read that brings something is kept up to the goal, and filling
up goes on. -/
theorem fill_more {goal : Nat} {intake : Intake} {bytes : Bytes} {rest : Incoming}
    (short : ¬ goal ≤ intake.buffer.length)
    (read : intake.incoming.read intake.room = (.ok bytes, rest)) (brings : bytes ≠ []) :
    fill goal intake = fill goal { intake with
      buffer := intake.buffer ++ bytes.take (goal - intake.buffer.length)
      incoming := rest } := by
  rw [fill, dif_neg short, read]
  simp only [dif_neg brings]

/-- The next read of a division is kept up to the goal, and filling up goes on. -/
theorem fill_read (goal : Nat) (intake : Intake) (read : Bytes) (reads : List Bytes)
    (hi : intake.incoming = .ofReads (read :: reads)) (hne : read ≠ [])
    (hfit : read.length ≤ intake.room) (h : ¬ goal ≤ intake.buffer.length) :
    fill goal intake = fill goal { intake with
      buffer := intake.buffer ++ read.take (goal - intake.buffer.length)
      incoming := .ofReads reads } := by
  have hread : intake.incoming.read intake.room = (.ok read, .ofReads reads) := by
    rw [hi]
    simp [Incoming.ofReads, Incoming.read, hfit]
  exact fill_more h hread hne

/-- If too little is kept at the end of a division, filling up is truncated. -/
theorem fill_nil (goal : Nat) (intake : Intake) (hi : intake.incoming = .ofReads [])
    (h : ¬ goal ≤ intake.buffer.length) :
    fill goal intake
      = (.error (.truncated goal intake.buffer.length), { intake with incoming := [] }) := by
  rw [fill, dif_neg h, hi]
  simp [Incoming.ofReads, Incoming.read]

/-- Filling from reads that bring enough keeps exactly the bytes up to the goal. -/
theorem fill_ofReads (goal : Nat) (intake : Intake) (reads : List Bytes)
    (hi : intake.incoming = .ofReads reads) (hne : ∀ read ∈ reads, read ≠ [])
    (hfit : ∀ read ∈ reads, read.length ≤ intake.room)
    (hg : goal ≤ intake.buffer.length + reads.flatten.length) :
    fill goal intake = (.ok (), { intake with
      buffer := intake.buffer ++ reads.flatten.take (goal - intake.buffer.length)
      incoming := .ofReads (readsAfter (goal - intake.buffer.length) reads) }) := by
  induction reads generalizing intake with
  | nil =>
    have hle : goal ≤ intake.buffer.length := by simpa using hg
    have h0 : goal - intake.buffer.length = 0 := by omega
    rw [fill_of_le goal intake hle, h0]
    simp [readsAfter, ← hi]
  | cons read reads ih =>
    by_cases hle : goal ≤ intake.buffer.length
    · have h0 : goal - intake.buffer.length = 0 := by omega
      rw [fill_of_le goal intake hle, h0]
      simp [readsAfter, ← hi]
    · obtain ⟨need, hneed⟩ : ∃ need, goal - intake.buffer.length = need + 1 :=
        ⟨goal - intake.buffer.length - 1, by omega⟩
      have hlen : (intake.buffer ++ read.take (need + 1)).length
          = intake.buffer.length + min (need + 1) read.length := by
        rw [List.length_append, List.length_take]
      have hrest : goal - (intake.buffer ++ read.take (need + 1)).length
          = need + 1 - read.length := by
        rw [hlen]
        omega
      rw [List.flatten_cons, List.length_append] at hg
      rw [fill_read goal intake read reads hi (hne read List.mem_cons_self)
        (hfit read List.mem_cons_self) hle, hneed]
      -- the induction is on the reads, with the intake as the read before leaves it
      have step := ih { intake with
          buffer := intake.buffer ++ read.take (need + 1)
          incoming := .ofReads reads } rfl
        (fun r hr => hne r (List.mem_cons_of_mem _ hr))
        (fun r hr => hfit r (List.mem_cons_of_mem _ hr)) (by simp only [hlen]; omega)
      rw [step]
      simp only [hrest, readsAfter, List.append_assoc, List.flatten_cons, List.take_append]

/-- If the reads of a division hold too little, filling up keeps all of them and is truncated. -/
theorem fill_ofReads_short (goal : Nat) (intake : Intake) (reads : List Bytes)
    (hi : intake.incoming = .ofReads reads) (hne : ∀ read ∈ reads, read ≠ [])
    (hfit : ∀ read ∈ reads, read.length ≤ intake.room)
    (hg : intake.buffer.length + reads.flatten.length < goal) :
    fill goal intake =
      (.error (.truncated goal (intake.buffer.length + reads.flatten.length)), { intake with
        buffer := intake.buffer ++ reads.flatten
        incoming := [] }) := by
  induction reads generalizing intake with
  | nil =>
    rw [fill_nil goal intake hi (by simpa using hg)]
    simp
  | cons read reads ih =>
    rw [List.flatten_cons, List.length_append] at hg
    have htake : read.take (goal - intake.buffer.length) = read := by
      apply List.take_of_length_le
      omega
    rw [fill_read goal intake read reads hi (hne read List.mem_cons_self)
      (hfit read List.mem_cons_self) (by omega), htake]
    have step := ih { intake with
        buffer := intake.buffer ++ read
        incoming := .ofReads reads } rfl
      (fun r hr => hne r (List.mem_cons_of_mem _ hr))
      (fun r hr => hfit r (List.mem_cons_of_mem _ hr))
      (by simp only [List.length_append]; omega)
    rw [step]
    simp only [List.append_assoc, List.flatten_cons, List.length_append, Nat.add_assoc]

/-- The header is read off the first read, all of which is kept. -/
theorem outcome_readHeader (packetSize : Nat) (first : Bytes) (later : List Bytes)
    (header : RequestHeader) (hfit : first.length ≤ max packetSize requestHeaderSize)
    (hd : RequestHeader.decode first = .ok header) :
    readHeader.outcome (start packetSize (.ofReads (first :: later)))
      = (.ok header, { start packetSize (.ofReads later) with
          buffer := first, header? := some header }) := by
  have hread : Incoming.read (max packetSize requestHeaderSize) (.ofReads (first :: later))
      = (.ok first, .ofReads later) := by
    simp [Incoming.ofReads, Incoming.read, hfit]
  rw [outcome_readHeader_of_unknown rfl]
  simp only [start, hread, List.nil_append, hd]

end Intake

/-- What is kept, filled up to the size of the body, starts with the body, wherever what is kept
ends. -/
theorem append_take_of_append_eq {kept later body padding : Bytes}
    (h : kept ++ later = body ++ padding) :
    ∃ extra, kept ++ later.take (body.length - kept.length) = body ++ extra := by
  rcases List.append_eq_append_iff.1 h with ⟨more, rfl, rfl⟩ | ⟨more, rfl, rfl⟩
  · refine ⟨[], ?_⟩
    rw [List.length_append, Nat.add_sub_cancel_left, List.take_left, List.append_nil]
  · exact ⟨more, by simp⟩

/-- How many bytes behind the prelude of a message are dropped when the prelude is completed. -/
def droppedBehindPrelude : List Bytes → Nat
  | [] => 0
  | first :: later => overrun (requestHeaderSize + sendPreludeSize - first.length) later

/-- Whether what a request needs is left when the bytes that are dropped are left out. -/
def KeepsContent (padding : Bytes) (reads : List Bytes) : Request → Prop
  | .sendMessage _ _ content =>
    content <+: (content ++ padding).drop (droppedBehindPrelude reads)
  | _ => True

instance (padding : Bytes) (reads : List Bytes) : DecidablePred (KeepsContent padding reads)
  | .sendMessage _ _ content => inferInstanceAs (Decidable (content <+: _))
  | .register _ _ => .isTrue trivial
  | .clientsList => .isTrue trivial
  | .publicKey _ => .isTrue trivial
  | .unreadMessages => .isTrue trivial

namespace Intake

variable {packetSize : Nat} {header : RequestHeader} {kept : Bytes} {later : List Bytes}

/-- The intake after the header was read off a first read that brought `kept` behind it. -/
def afterHeader (packetSize : Nat) (header : RequestHeader) (kept : Bytes) (later : List Bytes) :
    Intake :=
  { start packetSize (.ofReads later) with buffer := header.encode ++ kept, header? := some header }

/-- Behind a first read that holds the header, the body is read with this header known. -/
theorem outcome_readBody (code : RequestCode)
    (hfit : (header.encode ++ kept).length ≤ max packetSize requestHeaderSize) :
    (readBody code).outcome (start packetSize (.ofReads ((header.encode ++ kept) :: later)))
      = (do
          let size ← bodySize code
          fillTo (requestHeaderSize + size)
          lift (Request.decodeBody code ((← get).buffer.drop requestHeaderSize)) :
          Assembling Request).outcome (afterHeader packetSize header kept later) := by
  rw [readBody, Assembling.outcome_bind,
    outcome_readHeader packetSize _ later header hfit (RequestHeader.decode_encode header kept)]
  rfl

/-- Behind the header, filling up keeps the front of what is still to come, up to the goal, and
drops the rest of the last read. -/
theorem fill_afterHeader (goal : Nat) (hne : ∀ read ∈ later, read ≠ [])
    (hfit : ∀ read ∈ later, read.length ≤ max packetSize requestHeaderSize)
    (hg : goal ≤ kept.length + later.flatten.length) :
    fill (requestHeaderSize + goal) (afterHeader packetSize header kept later)
      = (.ok (), afterHeader packetSize header (kept ++ later.flatten.take (goal - kept.length))
          (readsAfter (goal - kept.length) later)) := by
  have hlen : (header.encode ++ kept).length = requestHeaderSize + kept.length := by
    rw [List.length_append, RequestHeader.length_encode]
  have hneed : requestHeaderSize + goal - (header.encode ++ kept).length = goal - kept.length := by
    rw [hlen]
    omega
  rw [fill_ofReads (requestHeaderSize + goal) (afterHeader packetSize header kept later) later rfl
    hne hfit (by simp only [afterHeader, hlen]; omega)]
  simp only [afterHeader, hneed, List.append_assoc]
  rfl

/-- What is kept behind the header is what the first read brought behind it. -/
theorem drop_afterHeader :
    (afterHeader packetSize header kept later).buffer.drop requestHeaderSize = kept := by
  rw [afterHeader, ← header.length_encode, List.drop_left]

/-- A body that has a fixed width and is read off that width alone is put together from any reads. -/
theorem readBody_of_width {code : RequestCode} {body padding : Bytes}
    (hb : bodySize code = pure body.length)
    (hdec : ∀ extra, Request.decodeBody code (body ++ extra) = Request.decodeBody code body)
    (hd : Division (max packetSize requestHeaderSize) (header.encode ++ (body ++ padding))
      ((header.encode ++ kept) :: later)) :
    ((readBody code).outcome (start packetSize (.ofReads ((header.encode ++ kept) :: later)))).1
      = (Request.decodeBody code body).mapError .malformed := by
  have hjoin : kept ++ later.flatten = body ++ padding := by
    have := hd.joined
    rw [List.flatten_cons, List.append_assoc] at this
    exact List.append_cancel_left this
  obtain ⟨extra, hextra⟩ := append_take_of_append_eq hjoin
  have hg : body.length ≤ kept.length + later.flatten.length := by
    have := congrArg List.length hjoin
    simp only [List.length_append] at this
    omega
  rw [outcome_readBody code (hd.fits _ List.mem_cons_self), Assembling.outcome_bind, hb,
    Assembling.outcome_pure]
  simp only [Assembling.outcome_bind, Assembling.outcome_fillTo]
  rw [fill_afterHeader body.length (fun r hr => hd.nonempty r (List.mem_cons_of_mem _ hr))
    (fun r hr => hd.fits r (List.mem_cons_of_mem _ hr)) hg]
  simp only [Assembling.outcome_get, drop_afterHeader, hextra, hdec, Assembling.outcome_lift]

/-- A request whose body has a fixed width is put together from any reads. -/
theorem readBody_of_fixed {code : RequestCode} {body padding : Bytes} {request : Request}
    (hb : bodySize code = pure body.length)
    (hdec : ∀ extra, Request.decodeBody code (body ++ extra) = .ok request)
    (hd : Division (max packetSize requestHeaderSize) (header.encode ++ (body ++ padding))
      ((header.encode ++ kept) :: later)) :
    ((readBody code).outcome
      (start packetSize (.ofReads ((header.encode ++ kept) :: later)))).1 = .ok request := by
  have alone : Request.decodeBody code body = .ok request := by
    rw [← hdec [], List.append_nil]
  rw [readBody_of_width hb (fun extra => (hdec extra).trans alone.symm) hd, alone]
  rfl

/-- If too little is still to come behind the header, filling up is truncated. -/
theorem fill_afterHeader_short (goal : Nat) (hne : ∀ read ∈ later, read ≠ [])
    (hfit : ∀ read ∈ later, read.length ≤ max packetSize requestHeaderSize)
    (hg : kept.length + later.flatten.length < goal) :
    fill (requestHeaderSize + goal) (afterHeader packetSize header kept later)
      = (.error (.truncated (requestHeaderSize + goal)
          (requestHeaderSize + (kept.length + later.flatten.length))),
        afterHeader packetSize header (kept ++ later.flatten) []) := by
  have hlen : (header.encode ++ kept).length = requestHeaderSize + kept.length := by
    rw [List.length_append, RequestHeader.length_encode]
  rw [fill_ofReads_short (requestHeaderSize + goal) (afterHeader packetSize header kept later)
    later rfl hne hfit (by simp only [afterHeader, hlen]; omega)]
  simp only [afterHeader, hlen, Nat.add_assoc, List.append_assoc]
  rfl

/-- When the prelude is complete, what is kept and what is still to be read make up the bytes
behind it but for those that were dropped. -/
theorem prelude_split {fields : SendPrelude} {stream : Bytes}
    (hjoin : kept ++ later.flatten = fields.encode ++ stream) :
    ∃ extra, kept ++ later.flatten.take (sendPreludeSize - kept.length) = fields.encode ++ extra
      ∧ extra ++ (readsAfter (sendPreludeSize - kept.length) later).flatten
        = stream.drop (overrun (sendPreludeSize - kept.length) later) := by
  rw [← fields.length_encode]
  rcases List.append_eq_append_iff.1 hjoin with ⟨more, hf, hl⟩ | ⟨extra, rfl, rfl⟩
  · refine ⟨[], ?_, ?_⟩
    · rw [hf, hl, List.length_append, Nat.add_sub_cancel_left, List.take_left, List.append_nil]
    · have hneed : fields.encode.length - kept.length = more.length := by
        rw [hf, List.length_append, Nat.add_sub_cancel_left]
      rw [List.nil_append, flatten_readsAfter, hneed, hl, ← List.drop_drop, List.drop_left]
  · have h0 : fields.encode.length - (fields.encode ++ extra).length = 0 := by
      rw [List.length_append]
      omega
    rw [h0]
    exact ⟨extra, by simp, by simp [readsAfter, overrun]⟩

/-- The content of a message is what is seen behind its prelude, as far as it goes. -/
theorem outcome_content (packetSize : Nat) (header : RequestHeader) {fields : SendPrelude}
    {size : Nat} (extra : Bytes) (hc : fields.contentSize.toNat = size) (hne : ∀ read ∈ later, read ≠ [])
    (hfit : ∀ read ∈ later, read.length ≤ max packetSize requestHeaderSize) :
    ((do
        fillTo (requestHeaderSize + (sendPreludeSize + size))
        lift (Request.decodeBody .sendMessage ((← get).buffer.drop requestHeaderSize)) :
        Assembling Request).outcome
      (afterHeader packetSize header (fields.encode ++ extra) later)).1 =
      let seen := extra ++ later.flatten
      if size ≤ seen.length then
        .ok (.sendMessage fields.target fields.type (seen.take size))
      else
        .error (.truncated (requestHeaderSize + (sendPreludeSize + size))
          (requestHeaderSize + (sendPreludeSize + seen.length))) := by
  have hkept : (fields.encode ++ extra).length = sendPreludeSize + extra.length := by
    rw [List.length_append, SendPrelude.length_encode]
  simp only [Assembling.outcome_bind, Assembling.outcome_fillTo, Assembling.outcome_get]
  by_cases hlen : size ≤ (extra ++ later.flatten).length
  · obtain ⟨more, hmore⟩ := append_take_of_append_eq
      (List.take_append_drop size (extra ++ later.flatten)).symm
    rw [List.length_take, Nat.min_eq_left hlen] at hmore
    have hneed : sendPreludeSize + size - (fields.encode ++ extra).length = size - extra.length := by
      rw [hkept]
      omega
    have htake : fields.contentSize.toNat = ((extra ++ later.flatten).take size).length := by
      rw [List.length_take, hc]
      omega
    rw [if_pos hlen]
    rw [List.length_append] at hlen
    rw [fill_afterHeader (sendPreludeSize + size) hne hfit (by omega)]
    simp only [drop_afterHeader, hneed, List.append_assoc, hmore, Request.decodeBody,
      Request.decodeSend_prelude htake, Assembling.outcome_lift_ok]
  · rw [if_neg hlen]
    rw [List.length_append] at hlen
    rw [fill_afterHeader_short (sendPreludeSize + size) hne hfit (by omega)]
    simp only [hkept, List.length_append, Nat.add_assoc]

/-- What becomes of a message: its content is the bytes behind the prelude but for those that were
dropped, and it is refused if they are too few. -/
theorem readBody_sendMessage (packetSize : Nat) (header : RequestHeader) (fields : SendPrelude)
    (kept content padding : Bytes) (later : List Bytes)
    (hc : fields.contentSize.toNat = content.length)
    (hd : Division (max packetSize requestHeaderSize)
      (header.encode ++ (fields.encode ++ (content ++ padding)))
      ((header.encode ++ kept) :: later)) :
    ((readBody .sendMessage).outcome
      (start packetSize (.ofReads ((header.encode ++ kept) :: later)))).1 =
      let seen := (content ++ padding).drop
        (droppedBehindPrelude ((header.encode ++ kept) :: later))
      if content.length ≤ seen.length then
        .ok (.sendMessage fields.target fields.type (seen.take content.length))
      else
        .error (.truncated (requestHeaderSize + (sendPreludeSize + content.length))
          (requestHeaderSize + (sendPreludeSize + seen.length))) := by
  have hne : ∀ read ∈ later, read ≠ [] := fun r hr => hd.nonempty r (List.mem_cons_of_mem _ hr)
  have hfit : ∀ read ∈ later, read.length ≤ max packetSize requestHeaderSize :=
    fun r hr => hd.fits r (List.mem_cons_of_mem _ hr)
  have hjoin : kept ++ later.flatten = fields.encode ++ (content ++ padding) := by
    have := hd.joined
    rw [List.flatten_cons, List.append_assoc] at this
    exact List.append_cancel_left this
  have hdrop : droppedBehindPrelude ((header.encode ++ kept) :: later)
      = overrun (sendPreludeSize - kept.length) later := by
    rw [droppedBehindPrelude, List.length_append, RequestHeader.length_encode,
      Nat.add_sub_add_left]
  have hg : sendPreludeSize ≤ kept.length + later.flatten.length := by
    have := congrArg List.length hjoin
    simp only [List.length_append, SendPrelude.length_encode] at this
    omega
  -- filling up to the prelude drops the rest of the read that completes it
  obtain ⟨extra, hextra, hseen⟩ := prelude_split hjoin
  rw [hdrop, ← hseen, outcome_readBody .sendMessage (hd.fits _ List.mem_cons_self),
    Assembling.outcome_bind]
  simp only [bodySize, Assembling.outcome_bind, Assembling.outcome_fillTo,
    fill_afterHeader sendPreludeSize hne hfit hg, Assembling.outcome_get, drop_afterHeader, hextra,
    SendPrelude.decode_encode, Assembling.outcome_lift_ok, Assembling.outcome_pure, hc]
  have step := outcome_content packetSize header extra hc
    (fun r hr => hne r (mem_of_mem_readsAfter (sendPreludeSize - kept.length) hr))
    (fun r hr => hfit r (mem_of_mem_readsAfter _ hr))
  simpa only [Assembling.outcome_bind, Assembling.outcome_fillTo, Assembling.outcome_get]
    using step

end Intake

/-- The first read of a division is the header and what follows it, if it is long enough for the
header. -/
theorem exists_kept {room : Nat} {header : RequestHeader} {stream : Bytes} {reads : List Bytes}
    (hd : Division room (header.encode ++ stream) reads)
    (hfirst : ∀ first ∈ reads.head?, requestHeaderSize ≤ first.length) :
    ∃ kept later, reads = (header.encode ++ kept) :: later := by
  cases reads with
  | nil =>
    have := congrArg List.length hd.joined
    simp only [List.flatten_nil, List.length_nil, List.length_append, RequestHeader.length_encode,
      requestHeaderSize] at this
    omega
  | cons first later =>
    have hl : requestHeaderSize ≤ first.length := hfirst first rfl
    have hjoin : first ++ later.flatten = header.encode ++ stream := by
      rw [← List.flatten_cons]
      exact hd.joined
    rcases List.append_eq_append_iff.1 hjoin with ⟨more, hm, -⟩ | ⟨kept, rfl, -⟩
    · have hlen := congrArg List.length hm
      rw [List.length_append, RequestHeader.length_encode] at hlen
      have hnil : more = [] := List.length_eq_zero_iff.1 (by omega)
      exact ⟨[], later, by rw [hm, hnil, List.append_nil, List.append_nil]⟩
    · exact ⟨kept, later, rfl⟩

/-- When the first read brings the prelude of a message too, every request is put together: what is
read is what its body says, by itself. -/
theorem readBody_of_encodeBody {packetSize : Nat} {header : RequestHeader} {request : Request}
    {body kept padding : Bytes} {later : List Bytes} (hb : request.encodeBody = .ok body)
    (hd : Division (max packetSize requestHeaderSize) (header.encode ++ (body ++ padding))
      ((header.encode ++ kept) :: later))
    (hfirst : sendPreludeSize ≤ kept.length) :
    ((Intake.readBody request.code).outcome
      (Intake.start packetSize (.ofReads ((header.encode ++ kept) :: later)))).1
        = (Request.decodeBody request.code body).mapError .malformed := by
  cases request with
  | register name key =>
    have width : body.length = registrationSize := Request.length_of_encodeBody hb
    have hsize : Intake.bodySize .register = pure body.length := by
      rw [width]
      rfl
    exact Intake.readBody_of_width hsize
      (fun extra => Request.decodeRegistration_append (Nat.le_of_eq width.symm) extra) hd
  | clientsList =>
    cases hb
    exact Intake.readBody_of_width rfl (fun _ => rfl) hd
  | publicKey name =>
    have width : body.length = publicKeyLookupSize := length_of_encodeName hb
    have hsize : Intake.bodySize .publicKey = pure body.length := by
      rw [width]
      rfl
    exact Intake.readBody_of_width hsize
      (fun extra => Request.decodeLookup_append (Nat.le_of_eq width.symm) extra) hd
  | sendMessage target type content =>
    obtain ⟨fields, rfl, rfl, hc, rfl⟩ := Request.encodeBody_sendMessage hb
    rw [List.append_assoc] at hd
    -- the prelude is there from the start, so nothing is dropped behind it
    have none : droppedBehindPrelude ((header.encode ++ kept) :: later) = 0 := by
      have complete : requestHeaderSize + sendPreludeSize - (header.encode ++ kept).length = 0 := by
        rw [List.length_append, header.length_encode]
        omega
      rw [droppedBehindPrelude, complete, overrun]
    have alone := Request.decodeSend_prelude hc []
    rw [List.append_nil] at alone
    rw [Request.code, Intake.readBody_sendMessage _ _ _ _ _ _ _ hc hd, none, List.drop_zero,
      Request.decodeBody, alone]
    simp only [List.length_append, Nat.le_add_right, if_true, List.take_left]
    rfl
  | unreadMessages =>
    cases hb
    exact Intake.readBody_of_width rfl (fun _ => rfl) hd

/-- A request is put together as it was written exactly if what it needs is left when the bytes
dropped behind a message's prelude are left out; taken as one byte string it always is. -/
theorem readBody_eq_ok_iff (packetSize : Nat) (sender : ClientId) (request : Request)
    (encoded padding : Bytes) (reads : List Bytes) (he : request.encode sender = .ok encoded)
    (hn : request.HasPlainName)
    (hd : Division (max packetSize requestHeaderSize) (encoded ++ padding) reads)
    (hfirst : ∀ first ∈ reads.head?, requestHeaderSize ≤ first.length) :
    Request.decodeBody request.code ((encoded ++ padding).drop requestHeaderSize) = .ok request
      ∧ (((Intake.readBody request.code).outcome
          (Intake.start packetSize (.ofReads reads))).1 = .ok request
        ↔ KeepsContent padding reads request) := by
  obtain ⟨header, body, hb, -, -, -, rfl⟩ := Request.encode_eq_ok he
  rw [List.append_assoc] at hd ⊢
  refine ⟨?_, ?_⟩
  · rw [← header.length_encode, List.drop_left]
    exact Request.decodeBody_of_encodeBody hb hn padding
  obtain ⟨kept, later, rfl⟩ := exists_kept hd hfirst
  -- only a message is filled up in two rounds, and only there can bytes be dropped
  cases request with
  | register name key =>
    have hsize : Intake.bodySize .register = pure body.length := by
      rw [Request.length_of_encodeBody hb]
      rfl
    exact iff_of_true
      (Intake.readBody_of_fixed hsize (Request.decodeBody_of_encodeBody hb hn) hd) trivial
  | clientsList =>
    cases hb
    exact iff_of_true (Intake.readBody_of_fixed rfl (fun _ => rfl) hd) trivial
  | publicKey name =>
    have hsize : Intake.bodySize .publicKey = pure body.length := by
      rw [length_of_encodeName hb]
      rfl
    exact iff_of_true
      (Intake.readBody_of_fixed hsize (Request.decodeBody_of_encodeBody hb hn) hd) trivial
  | sendMessage target type content =>
    obtain ⟨fields, rfl, rfl, hc, rfl⟩ := Request.encodeBody_sendMessage hb
    rw [List.append_assoc] at hd
    rw [Request.code, Intake.readBody_sendMessage _ _ _ _ _ _ _ hc hd, KeepsContent]
    constructor
    · intro h
      simp only at h
      split at h
      · simp only [Except.ok.injEq, Request.sendMessage.injEq, true_and] at h
        exact List.prefix_iff_eq_take.2 h.symm
      · cases h
    · intro h
      rw [if_pos h.length_le, ← List.prefix_iff_eq_take.1 h]
  | unreadMessages =>
    cases hb
    exact iff_of_true (Intake.readBody_of_fixed rfl (fun _ => rfl) hd) trivial

/-- Content behind a prelude that ends with a read is put together from any further reads. -/
theorem readBody_read_ends_prelude :
    ∃ encoded, (Request.sendMessage .unregistered 3 [7, 8]).encode .unregistered = .ok encoded
      ∧ ((Intake.readBody .sendMessage).outcome (Intake.start 24 (.ofReads
          [encoded.take 24, (encoded.drop 24).take 20, (encoded.drop 44).take 1,
            encoded.drop 45 ++ [0]]))).1 = .ok (.sendMessage .unregistered 3 [7, 8]) :=
  ⟨_, rfl, (readBody_eq_ok_iff 24 .unregistered (.sendMessage .unregistered 3 [7, 8]) _ [0] _ rfl
    trivial ⟨by decide, by decide, by decide⟩ (by decide)).2.2 (by decide)⟩

/-- Content that comes with the end of the prelude is lost: the message is taken for truncated
though all of its bytes arrived. -/
theorem readBody_read_crosses_prelude :
    ∃ encoded, (Request.sendMessage .unregistered 3 [7]).encode .unregistered = .ok encoded
      ∧ Division (max 1024 requestHeaderSize) (encoded ++ []) [encoded.take 23, encoded.drop 23]
      ∧ (∀ first ∈ [encoded.take 23, encoded.drop 23].head?, requestHeaderSize ≤ first.length)
      ∧ ((Intake.readBody .sendMessage).outcome (Intake.start 1024 (.ofReads
          [encoded.take 23, encoded.drop 23]))).1 = .error (.truncated 45 44) := by
  let header : RequestHeader := ⟨.unregistered, clientVersion, RequestCode.sendMessage.number, 22⟩
  let fields : SendPrelude := ⟨.unregistered, 3, 1⟩
  have hlost := Intake.readBody_sendMessage 1024 header fields [] [7] [] [fields.encode ++ [7]] rfl
    ⟨by decide, by decide, by decide⟩
  exact ⟨_, rfl, ⟨by decide, by decide, by decide⟩, by decide, hlost⟩

end MessageRelay.Connection
