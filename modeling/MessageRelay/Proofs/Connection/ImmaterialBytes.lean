import MessageRelay.Proofs.Connection.Demands

/-!
# Bytes that are not looked at

Two connections on which reads of the same lengths arrive are read alike as long as the bytes differ
only where they are not looked at (`Immaterial`): the version and the size that a header states, what
stands behind the end of a name, and what stands behind a body that has a fixed width. How much is
kept, and which error is reported, depends on the lengths alone (`Intake.fill_alike`). What is kept
is the front of what arrives, unless bytes were dropped; they are only where the body of a message is
put together, in which every byte counts.
-/

set_option autoImplicit false

namespace MessageRelay

namespace Protocol

/-! ## Byte strings that agree where they are looked at -/

/-- Byte strings that agree at the places of a slice have the same slice. -/
theorem slice_congr {start size : Nat} {bytes bytes' : Bytes}
    (same : ∀ place, start ≤ place → place < start + size → bytes[place]? = bytes'[place]?) :
    Bytes.slice start size bytes = Bytes.slice start size bytes' := by
  apply List.ext_getElem?
  intro place
  rw [Bytes.slice, Bytes.slice, List.getElem?_take, List.getElem?_take]
  split
  · rw [List.getElem?_drop, List.getElem?_drop]
    exact same _ (by omega) (by omega)
  · rfl

/-- What stands in front of the first zero byte ends the same however it goes on behind it. -/
theorem nameBytes_congr {field field' : Bytes} (length : field.length = field'.length)
    (same : ∀ place, 0 ∉ field.take place → field[place]? = field'[place]?) :
    nameBytes field = nameBytes field' := by
  induction field generalizing field' with
  | nil =>
    rw [List.length_eq_zero_iff.1 length.symm]
  | cons byte field ih =>
    cases field' with
    | nil => cases length
    | cons byte' field' =>
      obtain rfl : byte = byte' := Option.some.inj (same 0 List.not_mem_nil)
      unfold nameBytes at ih ⊢
      by_cases zero : byte = 0
      · simp [zero]
      · rw [List.takeWhile_cons_of_pos (by simpa using zero),
          List.takeWhile_cons_of_pos (by simpa using zero)]
        refine congrArg _ (ih (Nat.succ.inj length) fun place plain => same (place + 1) ?_)
        rw [List.take_succ_cons, List.mem_cons, not_or]
        exact ⟨Ne.symm zero, plain⟩

/-- Of a header only the client and the code are looked at, besides how long it is. -/
inductive RequestHeader.DecodedAlike :
    Except WireError RequestHeader → Except WireError RequestHeader → Prop where
  | error (cause : WireError) : DecodedAlike (.error cause) (.error cause)
  | ok {header header' : RequestHeader} (client : header'.clientId = header.clientId)
      (code : header'.code = header.code) : DecodedAlike (.ok header) (.ok header')

/-- Headers are read alike from byte strings of one length that agree on the client and on the
code. -/
theorem RequestHeader.decode_alike {bytes bytes' : Bytes} (length : bytes.length = bytes'.length)
    (client : bytes.take clientIdSize = bytes'.take clientIdSize)
    (code : Bytes.slice (clientIdSize + 1) 2 bytes = Bytes.slice (clientIdSize + 1) 2 bytes') :
    DecodedAlike (decode bytes) (decode bytes') := by
  unfold decode
  rw [← length]
  split
  · exact .error _
  · refine .ok ?_ ?_
    · simp only [ClientId.ofBytes, client]
    · simp only [Bytes.slice] at code
      simp only [Bytes.toUInt16, List.drop_drop, code]

namespace Request

/-- A registration is read the same from bodies that agree on the name up to its end and on the
key. -/
theorem decodeRegistration_congr {body body' : Bytes} (length : body.length = body'.length)
    (name : nameBytes (body.take nameSize) = nameBytes (body'.take nameSize))
    (key : Bytes.slice nameSize publicKeySize body = Bytes.slice nameSize publicKeySize body') :
    decodeRegistration body = decodeRegistration body' := by
  simp only [decodeRegistration, requireSize, decodeName, length, name, key]

/-- A lookup is read the same from bodies that agree on the name up to its end. -/
theorem decodeLookup_congr {body body' : Bytes} (length : body.length = body'.length)
    (name : nameBytes (body.take nameSize) = nameBytes (body'.take nameSize)) :
    decodeLookup body = decodeLookup body' := by
  simp only [decodeLookup, requireSize, decodeName, length, name]

end Request

end Protocol

namespace Connection

open Protocol

/-! ## Reads of the same lengths -/

namespace Incoming

/-- What arrives has the same shape if it comes in chunks of the same lengths, with the same faults
between them. -/
inductive SameShape : Incoming → Incoming → Prop where
  | nil : SameShape [] []
  | chunk {bytes bytes' : Bytes} {rest rest' : Incoming} (length : bytes.length = bytes'.length)
      (others : SameShape rest rest') : SameShape (.chunk bytes :: rest) (.chunk bytes' :: rest')
  | fault (fault : SocketFault) {rest rest' : Incoming} (others : SameShape rest rest') :
      SameShape (.fault fault :: rest) (.fault fault :: rest')

/-- Two reads find equally many bytes or the same fault, and leave the same shape. -/
inductive SameRead :
    Except SocketFault Bytes × Incoming → Except SocketFault Bytes × Incoming → Prop where
  | found {bytes bytes' : Bytes} {rest rest' : Incoming} (length : bytes.length = bytes'.length)
      (shape : rest.SameShape rest') : SameRead (.ok bytes, rest) (.ok bytes', rest')
  | failed {fault : SocketFault} {rest rest' : Incoming} (shape : rest.SameShape rest') :
      SameRead (.error fault, rest) (.error fault, rest')

variable {incoming incoming' : Incoming}

/-- Streams of the same shape bring as many bytes with a read and leave streams of the same
shape. -/
theorem SameShape.read (shape : incoming.SameShape incoming') (room : Nat) :
    SameRead (incoming.read room) (incoming'.read room) := by
  cases shape with
  | nil => exact .found rfl .nil
  | fault fault others => exact .failed others
  | chunk length others =>
    rw [Incoming.read, Incoming.read, ← length]
    split
    · exact .found length others
    · refine .found (by simp [length]) (.chunk ?_ others)
      rw [List.length_drop, List.length_drop, length]

/-- What arrives is the same if it has the same shape and brings the same bytes. -/
theorem SameShape.eq_of_remaining (shape : incoming.SameShape incoming')
    (same : incoming.remaining = incoming'.remaining) : incoming = incoming' := by
  induction shape with
  | nil => rfl
  | fault fault _ ih => exact congrArg _ (ih same)
  | chunk length _ ih =>
    obtain ⟨rfl, others⟩ := List.append_inj same length
    exact congrArg _ (ih others)

end Incoming

/-! ## Putting together alike -/

namespace Intake

/-- Intakes that keep equally many bytes and to which the same shape still arrives. If everything
behind the header counts, it is the same. -/
structure Alike (whole : Prop) (intake intake' : Intake) : Prop where
  room : intake.room = intake'.room
  length : intake.buffer.length = intake'.buffer.length
  shape : intake.incoming.SameShape intake'.incoming
  same : whole → requestHeaderSize ≤ intake.buffer.length ∧ intake.incoming = intake'.incoming ∧
    intake.buffer.drop requestHeaderSize = intake'.buffer.drop requestHeaderSize

/-- A read that both make finds equally much, and if everything counts the same. -/
theorem Alike.read {whole : Prop} {intake intake' : Intake} (alike : intake.Alike whole intake')
    {found : Except SocketFault Bytes} {rest : Incoming}
    (read : intake.incoming.read intake.room = (found, rest)) :
    ∃ found' rest', intake'.incoming.read intake'.room = (found', rest') ∧
      Incoming.SameRead (found, rest) (found', rest') ∧
      (whole → found = found' ∧ rest = rest') := by
  have same := alike.shape.read intake.room
  have equal (w : whole) : (found, rest) = intake'.incoming.read intake'.room := by
    rw [← read, alike.room, (alike.same w).2.1]
  rw [read, alike.room] at same
  generalize intake'.incoming.read intake'.room = read' at same equal
  exact ⟨read'.1, read'.2, rfl, same, fun w => Prod.mk.inj (equal w)⟩

/-- Filling up gives the same result on intakes that are alike, and leaves them alike. -/
theorem fill_alike {whole : Prop} (goal : Nat) {intake intake' : Intake}
    (alike : intake.Alike whole intake') :
    (fill goal intake).1 = (fill goal intake').1 ∧
      (fill goal intake).2.Alike whole (fill goal intake').2 := by
  -- along the course of one intake; the other takes the same branch each time
  fun_induction fill goal intake generalizing intake' with
  | case1 intake enough =>
    rw [fill_of_le goal intake' (alike.length ▸ enough)]
    exact ⟨rfl, alike⟩
  | case2 intake short fault rest read =>
    obtain ⟨found', rest', read', same, equal⟩ := alike.read read
    cases same with
    | failed shape =>
      rw [fill, dif_neg (alike.length ▸ short), read']
      exact ⟨rfl, alike.room, alike.length, shape, fun w =>
        ⟨(alike.same w).1, (equal w).2, (alike.same w).2.2⟩⟩
  | case3 intake short rest read =>
    obtain ⟨found', rest', read', same, equal⟩ := alike.read read
    cases same with
    | found length shape =>
      have none := List.length_eq_zero_iff.1 length.symm
      rw [fill, dif_neg (alike.length ▸ short), read']
      simp only [dif_pos none, alike.length]
      exact ⟨trivial, alike.room, alike.length, shape, fun w =>
        ⟨(alike.same w).1, (equal w).2, (alike.same w).2.2⟩⟩
  | case4 intake short bytes rest read brings ih =>
    obtain ⟨found', rest', read', same, equal⟩ := alike.read read
    cases same with
    | @found _ bytes' _ _ length shape =>
      have some : bytes' ≠ [] := by
        rintro rfl
        exact brings (List.length_eq_zero_iff.1 length)
      rw [fill_more (alike.length ▸ short) read' some, ← alike.length]
      apply ih
      refine ⟨alike.room, ?_, shape, fun w => ?_⟩
      · simp only [List.length_append, List.length_take, alike.length, length]
      · obtain ⟨headed, -, body⟩ := alike.same w
        obtain ⟨found, rest⟩ := equal w
        cases found
        refine ⟨?_, rest, ?_⟩
        · rw [List.length_append]
          omega
        · rw [List.drop_append_of_le_length headed,
            List.drop_append_of_le_length (alike.length ▸ headed), body]

/-- Filling up keeps what arrives, from its front on. -/
theorem front_of_fill (goal : Nat) (intake : Intake) :
    (fill goal intake).2.buffer <+: intake.buffer ++ intake.incoming.remaining := by
  fun_induction fill goal intake with
  | case1 | case2 | case3 => exact List.prefix_append _ _
  | case4 intake short bytes rest read brings ih =>
    rw [Incoming.remaining_of_read read, ← List.append_assoc]
    by_cases fits : bytes.length ≤ goal - intake.buffer.length
    · rwa [List.take_of_length_le fits] at ih ⊢
    · -- bytes are dropped, and with that the goal is reached
      rw [fill_of_le]
      · exact ((List.prefix_append_right_inj _).2 (List.take_prefix _ _)).trans
          (List.prefix_append _ _)
      · simp only [List.length_append, List.length_take]
        omega

variable {intake intake' : Intake} {header header' : RequestHeader}

/-- A body of a fixed width is read alike if what decides it stands alike at the front of what
arrives. -/
theorem fst_readBody_of_front {whole : Prop} (alike : intake.Alike whole intake')
    (known : intake.header? = some header) (known' : intake'.header? = some header')
    {code : RequestCode} {size : Nat} (sized : bodySize code = pure size)
    (decided : ∀ kept kept', kept.length = kept'.length →
      kept <+: intake.buffer ++ intake.incoming.remaining →
      kept' <+: intake'.buffer ++ intake'.incoming.remaining →
        (Demand.body code).decode kept = (Demand.body code).decode kept') :
    ((readBody code).outcome intake).1 = ((readBody code).outcome intake').1 := by
  obtain ⟨filled, kept⟩ := fill_alike (requestHeaderSize + size) alike
  rw [outcome_readBody_of_known known, outcome_readBody_of_known known', sized, pure_bind,
    outcome_filled, outcome_filled, filled,
    decided _ _ kept.length (front_of_fill _ intake) (front_of_fill _ intake')]

/-- How wide a body is, is found out alike if everything behind the header is the same. -/
theorem bodySize_alike (alike : intake.Alike True intake') (code : RequestCode) :
    ((bodySize code).outcome intake).1 = ((bodySize code).outcome intake').1 ∧
      ((bodySize code).outcome intake).2.Alike True ((bodySize code).outcome intake').2 := by
  cases code with
  | register | publicKey | clientsList | unreadMessages => exact ⟨rfl, alike⟩
  | sendMessage =>
    have filled := fill_alike (requestHeaderSize + sendPreludeSize) alike
    simp only [bodySize, Assembling.outcome_bind, Assembling.outcome_fillTo]
    generalize fill (requestHeaderSize + sendPreludeSize) intake = outcome at filled ⊢
    generalize fill (requestHeaderSize + sendPreludeSize) intake' = outcome' at filled ⊢
    obtain ⟨result, left⟩ := outcome
    obtain ⟨_, left'⟩ := outcome'
    obtain ⟨rfl, alike⟩ := filled
    cases result with
    | error e => exact ⟨rfl, alike⟩
    | ok done =>
      have body := (alike.same trivial).2.2
      simp only [Assembling.outcome_get, Assembling.outcome_lift] at body ⊢
      rw [body]
      cases SendPrelude.decode (left'.buffer.drop requestHeaderSize) <;> exact ⟨rfl, alike⟩

/-- Any body is read alike if everything behind the header is the same. -/
theorem fst_readBody_of_same (alike : intake.Alike True intake')
    (known : intake.header? = some header) (known' : intake'.header? = some header')
    (code : RequestCode) :
    ((readBody code).outcome intake).1 = ((readBody code).outcome intake').1 := by
  have sized := bodySize_alike alike code
  rw [outcome_readBody_of_known known, outcome_readBody_of_known known', Assembling.outcome_bind,
    Assembling.outcome_bind]
  generalize (bodySize code).outcome intake = outcome at sized ⊢
  generalize (bodySize code).outcome intake' = outcome' at sized ⊢
  obtain ⟨result, left⟩ := outcome
  obtain ⟨_, left'⟩ := outcome'
  obtain ⟨rfl, alike⟩ := sized
  cases result with
  | error e => rfl
  | ok size =>
    obtain ⟨filled, alike⟩ := fill_alike (requestHeaderSize + size) alike
    simp only [outcome_filled, Demand.decode, filled, (alike.same trivial).2.2]

end Intake

/-! ## Immaterial bytes -/

/-- The code of the request that a byte string starts with, if it is a known one. -/
def namedCode? (stream : Bytes) : Option RequestCode :=
  RequestCode.ofNumber? (Bytes.toUInt16 (stream.drop (clientIdSize + 1)))

/-- The places of a byte string at which it is not looked at when a request is read off it. -/
inductive Immaterial (stream : Bytes) (place : Nat) : Prop where
  /-- The version that a header states. -/
  | version (there : place = clientIdSize)
  /-- The size that a header states. -/
  | payloadSize (behind : clientIdSize + 3 ≤ place) (before : place < requestHeaderSize)
  /-- What stands in the field of a name behind a zero byte. -/
  | behindName {code : RequestCode} (named : namedCode? stream = some code)
      (carries : code = .register ∨ code = .publicKey) (behind : requestHeaderSize ≤ place)
      (before : place < requestHeaderSize + nameSize)
      (ended : 0 ∈ (stream.take place).drop requestHeaderSize)
  /-- What stands behind a body of a fixed width. -/
  | behindBody {code : RequestCode} (named : namedCode? stream = some code)
      (fixed : code ≠ .sendMessage) (behind : (Demand.body code).needed stream ≤ place)
  /-- What stands behind a header with an unknown code. -/
  | behindHeader (unknown : namedCode? stream = none) (behind : requestHeaderSize ≤ place)

/-- Every demand needs at least the header. -/
theorem Demand.requestHeaderSize_le_needed (demand : Demand) (kept : Bytes) :
    requestHeaderSize ≤ demand.needed kept := by
  match demand with
  | .header | .body .clientsList | .body .unreadMessages => exact Nat.le_refl _
  | .body .register | .body .publicKey => exact Nat.le_add_right _ _
  | .body .sendMessage =>
    rw [needed]
    split <;> exact Nat.le_add_right _ _

namespace Immaterial

variable {stream : Bytes} {place : Nat}

/-- In a header only the version and the size are not looked at. -/
theorem of_header (immaterial : Immaterial stream place) (before : place < requestHeaderSize) :
    place = clientIdSize ∨ clientIdSize + 3 ≤ place := by
  cases immaterial with
  | version there => exact .inl there
  | payloadSize behind => exact .inr behind
  | behindName _ _ behind | behindHeader _ behind => exact absurd before (Nat.not_lt.2 behind)
  | behindBody _ _ behind =>
    exact absurd before (Nat.not_lt.2 ((Demand.requestHeaderSize_le_needed _ _).trans behind))

/-- In the body of a request only what stands behind its name is not looked at, if it has one, and in
a message nothing. -/
theorem of_body {code : RequestCode} (immaterial : Immaterial stream place)
    (named : namedCode? stream = some code) (behind : requestHeaderSize ≤ place)
    (before : code = .sendMessage ∨ place < (Demand.body code).needed stream) :
    code ≠ .sendMessage ∧ place < requestHeaderSize + nameSize ∧
      0 ∈ (stream.take place).drop requestHeaderSize := by
  have sizes : requestHeaderSize = 23 ∧ clientIdSize = 16 := ⟨rfl, rfl⟩
  cases immaterial with
  | version | payloadSize => omega
  | behindName named' carries _ inField ended =>
    cases named.symm.trans named'
    refine ⟨?_, inField, ended⟩
    rintro rfl
    rcases carries with carries | carries <;> cases carries
  | behindBody named' fixed beyond =>
    cases named.symm.trans named'
    exact absurd beyond (Nat.not_le.2 (before.resolve_left fixed))
  | behindHeader unknown => cases named.symm.trans unknown

end Immaterial

/-- Two streams of bytes that differ at most where they are not looked at. -/
def SameMaterial (stream stream' : Bytes) : Prop :=
  ∀ place, ¬ Immaterial stream place → stream[place]? = stream'[place]?

namespace SameMaterial

variable {stream stream' kept kept' : Bytes}

/-- What is kept of the two is the same where it is looked at. -/
theorem of_front (same : SameMaterial stream stream') (length : kept.length = kept'.length)
    (front : kept <+: stream) (front' : kept' <+: stream') {place : Nat}
    (material : ¬ Immaterial stream place) : kept[place]? = kept'[place]? := by
  obtain ⟨more, rfl⟩ := front
  obtain ⟨more', rfl⟩ := front'
  by_cases inside : place < kept.length
  · have here := same place material
    rwa [List.getElem?_append_left inside, List.getElem?_append_left (length ▸ inside)] at here
  · rw [List.getElem?_eq_none (Nat.not_lt.1 inside),
      List.getElem?_eq_none (length ▸ Nat.not_lt.1 inside)]

/-- The fronts of two streams with the same material bytes read alike as headers. -/
theorem decode_header (same : SameMaterial stream stream') (length : kept.length = kept'.length)
    (front : kept <+: stream) (front' : kept' <+: stream') :
    RequestHeader.DecodedAlike (RequestHeader.decode kept) (RequestHeader.decode kept') := by
  have sizes : requestHeaderSize = 23 ∧ clientIdSize = 16 := ⟨rfl, rfl⟩
  have there (place : Nat) (looked : place < clientIdSize ∨
      clientIdSize + 1 ≤ place ∧ place < clientIdSize + 1 + 2) : kept[place]? = kept'[place]? := by
    refine same.of_front length front front' fun immaterial => ?_
    have := immaterial.of_header (by omega)
    omega
  refine RequestHeader.decode_alike length ?_ ?_
  · rw [← @List.drop_zero _ kept, ← @List.drop_zero _ kept']
    exact slice_congr fun place _ before => there place (.inl (by omega))
  · exact slice_congr fun place behind before => there place (.inr ⟨behind, before⟩)

/-- The names in two bodies end the same. -/
theorem nameBytes_eq (same : SameMaterial stream stream') (length : kept.length = kept'.length)
    (front : kept <+: stream) (front' : kept' <+: stream') {code : RequestCode}
    (named : namedCode? stream = some code)
    (inBody : requestHeaderSize + nameSize ≤ (Demand.body code).needed stream) :
    nameBytes ((kept.drop requestHeaderSize).take nameSize)
      = nameBytes ((kept'.drop requestHeaderSize).take nameSize) := by
  apply nameBytes_congr
  · simp only [List.length_take, List.length_drop, length]
  · intro place plain
    rw [List.getElem?_take, List.getElem?_take]
    split
    · rename_i inField
      rw [List.getElem?_drop, List.getElem?_drop]
      by_cases inside : requestHeaderSize + place < kept.length
      · refine same.of_front length front front' fun immaterial => plain ?_
        have ended := (immaterial.of_body named (Nat.le_add_right _ _) (.inr (by omega))).2.2
        obtain ⟨more, rfl⟩ := front
        rw [List.take_append_of_le_length (Nat.le_of_lt inside), List.drop_take,
          Nat.add_sub_cancel_left] at ended
        rwa [List.take_take, Nat.min_eq_left (Nat.le_of_lt inField)]
      · rw [List.getElem?_eq_none (Nat.not_lt.1 inside),
          List.getElem?_eq_none (length ▸ Nat.not_lt.1 inside)]
    · rfl

/-- What decides a body of a fixed width is the same in both. -/
theorem decode_body (same : SameMaterial stream stream') (length : kept.length = kept'.length)
    (front : kept <+: stream) (front' : kept' <+: stream') {code : RequestCode}
    (named : namedCode? stream = some code) (fixed : code ≠ .sendMessage) :
    (Demand.body code).decode kept = (Demand.body code).decode kept' := by
  have bodies : (kept.drop requestHeaderSize).length = (kept'.drop requestHeaderSize).length := by
    rw [List.length_drop, List.length_drop, length]
  cases code with
  | register =>
    refine Request.decodeRegistration_congr bodies
      (same.nameBytes_eq length front front' named (Nat.add_le_add_left (Nat.le_add_right _ _) _))
      (slice_congr fun place behind before => ?_)
    rw [List.getElem?_drop, List.getElem?_drop]
    refine same.of_front length front front' fun immaterial => ?_
    have := (immaterial.of_body named (Nat.le_add_right _ _)
      (.inr (Nat.add_lt_add_left before _))).2.1
    omega
  | publicKey =>
    exact Request.decodeLookup_congr bodies
      (same.nameBytes_eq length front front' named (Nat.le_refl _))
  | clientsList | unreadMessages => rfl
  | sendMessage => exact absurd rfl fixed

/-- Behind the header of a message both are the same. -/
theorem drop_header (same : SameMaterial stream stream')
    (named : namedCode? stream = some .sendMessage) :
    stream.drop requestHeaderSize = stream'.drop requestHeaderSize := by
  apply List.ext_getElem?
  intro place
  rw [List.getElem?_drop, List.getElem?_drop]
  refine same _ fun immaterial => ?_
  exact (immaterial.of_body named (Nat.le_add_right _ _) (.inl rfl)).1 rfl

end SameMaterial

/-- The code that a stream names is the one in the header that is read from its front. -/
theorem namedCode?_of_decode {stream kept : Bytes} {header : RequestHeader}
    (decoded : RequestHeader.decode kept = .ok header) (front : kept <+: stream) :
    namedCode? stream = RequestCode.ofNumber? header.code := by
  obtain ⟨more, rfl⟩ := front
  have whole := RequestHeader.decode_append decoded more
  unfold RequestHeader.decode at whole
  split at whole
  · cases whole
  · cases whole
    simp only [namedCode?, List.drop_drop]

end Connection

end MessageRelay
