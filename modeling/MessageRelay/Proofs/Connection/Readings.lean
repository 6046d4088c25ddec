import MessageRelay.Proofs.Connection.Reassembly

/-!
# The reads that put a request together

Every read that an intake makes is known (`Readings`): the one for the header, which is made unless
the header is known (`Opening`), and those that fill up to what is needed, which are made only while
fewer bytes are kept (`Filling`). Each tells what its reads found, what is kept of that and which
error is reported. An intake makes no other reads (`Intake.exists_opening`, `Intake.exists_filling`).
-/

set_option autoImplicit false

namespace MessageRelay

namespace Protocol

/-- Bytes off which a header is read are enough for one. -/
theorem RequestHeader.length_of_decode {bytes : Bytes} {header : RequestHeader}
    (h : decode bytes = .ok header) : requestHeaderSize ≤ bytes.length := by
  unfold decode at h
  split at h
  · cases h
  · exact Nat.not_lt.1 ‹_›

/-- Reading a header ignores what follows it. -/
theorem RequestHeader.decode_append {bytes : Bytes} {header : RequestHeader}
    (h : decode bytes = .ok header) (more : Bytes) : decode (bytes ++ more) = .ok header := by
  unfold decode at h ⊢
  split at h
  · cases h
  rename_i long
  have sizes : requestHeaderSize = 23 ∧ clientIdSize = 16 := ⟨rfl, rfl⟩
  have rest := List.length_drop (i := clientIdSize) (l := bytes)
  have long' : ¬ (bytes ++ more).length < requestHeaderSize := by
    rw [List.length_append]
    omega
  rw [if_neg long', ← h, List.drop_append_of_le_length (by omega)]
  generalize bytes.drop clientIdSize = fields at rest ⊢
  have id : ClientId.ofBytes (bytes ++ more) = ClientId.ofBytes bytes := by
    simp only [ClientId.ofBytes, List.take_append_of_le_length
      (show clientIdSize ≤ bytes.length by omega)]
  have version : (fields ++ more).headD 0 = fields.headD 0 := by
    cases fields with
    | nil => rw [List.length_nil] at rest; omega
    | cons => rfl
  have code : Bytes.toUInt16 ((fields ++ more).drop 1) = Bytes.toUInt16 (fields.drop 1) := by
    rw [List.drop_append_of_le_length (by omega), Bytes.toUInt16,
      List.take_append_of_le_length (by rw [List.length_drop]; omega), Bytes.toUInt16]
  have size : Bytes.toUInt32 ((fields ++ more).drop 3) = Bytes.toUInt32 (fields.drop 3) := by
    rw [List.drop_append_of_le_length (by omega), Bytes.toUInt32,
      List.take_append_of_le_length (by rw [List.length_drop]; omega), Bytes.toUInt32]
  simp only [id, version, code, size]

end Protocol

namespace Connection

open Protocol

/-! ## Reads in a row -/

/-- A read that is made while a request is put together. -/
structure Reading where
  /-- The bytes that were kept before it. -/
  kept : Bytes
  /-- What it found. -/
  found : Except SocketFault Bytes
  /-- The bytes that are kept after it. -/
  keeps : Bytes

/-- Of the bytes that a read found a part is kept behind those that were; a read that failed leaves
them as they were. -/
def Reading.Keeps (part : Bytes → Bytes) (reading : Reading) : Prop :=
  match reading.found with
  | .ok bytes => reading.keeps = reading.kept ++ part bytes
  | .error _ => reading.keeps = reading.kept

/-- Reads that are made one after the other, with what is kept and what is still to be read in front
of the first and behind the last of them. -/
inductive Readings (room : Nat) : Bytes → Incoming → List Reading → Bytes → Incoming → Prop where
  | none (kept : Bytes) (incoming : Incoming) : Readings room kept incoming [] kept incoming
  | read {kept keeps last : Bytes} {incoming rest left : Incoming}
      {found : Except SocketFault Bytes} {others : List Reading}
      (read : incoming.read room = (found, rest))
      (later : Readings room keeps rest others last left) :
      Readings room kept incoming (⟨kept, found, keeps⟩ :: others) last left

namespace Readings

variable {room : Nat} {kept keeps last : Bytes} {incoming rest left : Incoming}
  {readings others : List Reading}

/-- A row of reads goes on with another row that starts where it ends. -/
theorem append (first : Readings room kept incoming readings keeps rest)
    (later : Readings room keeps rest others last left) :
    Readings room kept incoming (readings ++ others) last left := by
  induction first with
  | none => exact later
  | read found _ ih => exact .read found (ih later)

/-- The first read of a row finds the bytes that were kept at its start. -/
theorem kept_of_head? (made : Readings room kept incoming readings last left) :
    ∀ reading ∈ readings.head?, reading.kept = kept := by
  cases made <;> simp

end Readings

/-- How many reads can be made at most before nothing is left. -/
def Incoming.weight : Incoming → Nat
  | [] => 0
  | .chunk bytes :: rest => bytes.length + 1 + weight rest
  | .fault _ :: rest => 1 + weight rest

/-- A read with room for a byte leaves less to come, as long as there is anything to come. -/
theorem Incoming.weight_of_read {room : Nat} (room_pos : 0 < room) {incoming rest : Incoming}
    {found : Except SocketFault Bytes} (read : incoming.read room = (found, rest))
    (remains : incoming ≠ []) : rest.weight < incoming.weight := by
  unfold Incoming.read at read
  split at read
  · exact absurd rfl remains
  · cases read
    rw [weight]
    omega
  · split at read
    · cases read
      rw [weight]
      omega
    · cases read
      rw [weight, weight, List.length_drop]
      omega

namespace Readings

variable {room : Nat} {kept kept' last last' : Bytes} {incoming left : Incoming}
  {readings others : List Reading}

/-- There is never more to come behind a row of reads than before it. -/
theorem weight_le (room_pos : 0 < room) (made : Readings room kept incoming readings last left) :
    left.weight ≤ incoming.weight := by
  induction made with
  | none => exact Nat.le_refl _
  | @read _ _ _ incoming _ _ _ _ read _ ih =>
    by_cases remains : incoming = []
    · subst remains
      cases read
      exact ih
    · exact Nat.le_trans ih (Nat.le_of_lt (Incoming.weight_of_read room_pos read remains))

/-- After a read less is left than before it. -/
theorem ne_of_read (room_pos : 0 < room) {rest : Incoming} {found : Except SocketFault Bytes}
    (read : incoming.read room = (found, rest)) (remains : incoming ≠ []) :
    ¬ Readings room kept rest readings last incoming :=
  fun made => absurd (made.weight_le room_pos)
    (Nat.not_le.2 (Incoming.weight_of_read room_pos read remains))

/-- If something is left to be read, only one row of reads leads there. -/
theorem unique (room_pos : 0 < room) (made : Readings room kept incoming readings last left)
    (made' : Readings room kept' incoming others last' left) (remains : left ≠ []) :
    readings.map (·.found) = others.map (·.found) := by
  induction made generalizing kept' others with
  | none =>
    cases made' with
    | none => rfl
    | read read later => exact absurd later (ne_of_read room_pos read remains)
  | read read later ih =>
    cases made' with
    | none => exact absurd later (ne_of_read room_pos read remains)
    | read read' later' =>
      cases read.symm.trans read'
      rw [List.map_cons, List.map_cons, ih later' remains]

end Readings

/-! ## Filling up -/

/-- The reads that are made to fill up to what is needed, which may depend on what is kept: what
comes of them, and where they leave the intake. -/
inductive Filling (need : Bytes → Nat) :
    Intake → List Reading → Except ReadError Unit → Intake → Prop where
  | done (intake : Intake) : Filling need intake [] (.ok ()) intake
  | ended {intake : Intake} {rest : Incoming} (lacks : intake.buffer.length < need intake.buffer)
      (read : intake.incoming.read intake.room = (.ok [], rest)) :
      Filling need intake [⟨intake.buffer, .ok [], intake.buffer⟩]
        (.error (.truncated (need intake.buffer) intake.buffer.length))
        { intake with incoming := rest }
  | broken {intake : Intake} {rest : Incoming} {fault : SocketFault}
      (lacks : intake.buffer.length < need intake.buffer)
      (read : intake.incoming.read intake.room = (.error fault, rest)) :
      Filling need intake [⟨intake.buffer, .error fault, intake.buffer⟩] (.error (.socket fault))
        { intake with incoming := rest }
  | more {intake intake' : Intake} {rest : Incoming} {bytes keeps : Bytes} {later : List Reading}
      {result : Except ReadError Unit} (lacks : intake.buffer.length < need intake.buffer)
      (read : intake.incoming.read intake.room = (.ok bytes, rest)) (brings : bytes ≠ [])
      (keeping : keeps
        = intake.buffer ++ bytes.take (need intake.buffer - intake.buffer.length))
      (others : Filling need { intake with buffer := keeps, incoming := rest } later result
        intake') :
      Filling need intake (⟨intake.buffer, .ok bytes, keeps⟩ :: later) result intake'

/-- The header that is known is the one that the bytes kept start with. -/
def Intake.Headed (intake : Intake) : Prop :=
  ∀ header, intake.header? = some header → RequestHeader.decode intake.buffer = .ok header

namespace Filling

variable {need : Bytes → Nat} {intake middle intake' : Intake} {made later : List Reading}
  {result : Except ReadError Unit}

/-- Filling up for a need goes on where it stopped, and ends as its later part does. -/
theorem append (first : Filling need intake made (.ok ()) middle)
    (second : Filling need middle later result intake') :
    Filling need intake (made ++ later) result intake' := by
  generalize ok : Except.ok () = filled at first
  induction first with
  | done => exact second
  | ended | broken => cases ok
  | more lacks read brings keeping _ ih => exact .more lacks read brings keeping (ih second ok)

/-- The reads made for a need follow each other. -/
theorem readings (filling : Filling need intake made result intake') :
    Readings intake.room intake.buffer intake.incoming made intake'.buffer intake'.incoming := by
  induction filling with
  | done => exact .none _ _
  | ended _ read | broken _ read => exact .read read (.none _ _)
  | more _ read _ _ _ ih => exact .read read ih

/-- Filling up leaves the size of the reads as it is. -/
theorem room (filling : Filling need intake made result intake') :
    intake'.room = intake.room := by
  induction filling with
  | done | ended | broken => rfl
  | more _ _ _ _ _ ih => exact ih

/-- Filling up does not touch the header that is known. -/
theorem header? (filling : Filling need intake made result intake') :
    intake'.header? = intake.header? := by
  induction filling with
  | done | ended | broken => rfl
  | more _ _ _ _ _ ih => exact ih

/-- What is kept stays. -/
theorem grows (filling : Filling need intake made result intake') :
    intake.buffer <+: intake'.buffer := by
  induction filling with
  | done | ended | broken => exact List.prefix_refl _
  | more _ _ _ keeping _ ih => exact (keeping ▸ List.prefix_append _ _ : _ <+: _).trans ih

/-- A known header stays the one at the front of what is kept. -/
theorem headed (filling : Filling need intake made result intake') (headed : intake.Headed) :
    intake'.Headed := by
  intro header known
  obtain ⟨more, whole⟩ := filling.grows
  rw [← whole]
  exact RequestHeader.decode_append (headed header (filling.header? ▸ known)) more

/-- No read is made for a need that is met. -/
theorem lacks (filling : Filling need intake made result intake') :
    ∀ reading ∈ made, reading.kept.length < need reading.kept := by
  induction filling with
  | done => simp
  | ended lacks | broken lacks => simpa using lacks
  | more lacks _ _ _ _ ih => exact List.forall_mem_cons.2 ⟨lacks, ih⟩

/-- No more is kept than is needed. -/
theorem keeps (filling : Filling need intake made result intake') :
    ∀ reading ∈ made, reading.Keeps (List.take (need reading.kept - reading.kept.length)) := by
  induction filling with
  | done => simp
  | ended => simp [Reading.Keeps]
  | broken => simp [Reading.Keeps]
  | more _ _ _ keeping _ ih => exact List.forall_mem_cons.2 ⟨keeping, ih⟩

/-- No read is kept beyond the need that it was made for. -/
theorem within (filling : Filling need intake made result intake') :
    ∀ reading ∈ made, reading.keeps.length ≤ need reading.kept := by
  intro reading among
  have lacks := filling.lacks reading among
  have keeps := filling.keeps reading among
  unfold Reading.Keeps at keeps
  split at keeps
  · rw [keeps, List.length_append, List.length_take]
    omega
  · rw [keeps]
    omega

/-- Filling up reports a truncation exactly if a read found nothing, and states what was needed and
what was there. -/
theorem truncated_iff (filling : Filling need intake made result intake')
    (expected received : Nat) :
    result = .error (.truncated expected received) ↔
      (∃ reading ∈ made, reading.found = .ok []) ∧ received = intake'.buffer.length ∧
        expected = need intake'.buffer ∧ received < expected := by
  induction filling with
  | done => simp
  | ended lacks =>
    simp only [Except.error.injEq, ReadError.truncated.injEq, List.mem_singleton, exists_eq_left,
      true_and]
    constructor
    · rintro ⟨rfl, rfl⟩
      exact ⟨rfl, rfl, lacks⟩
    · rintro ⟨rfl, rfl, -⟩
      exact ⟨rfl, rfl⟩
  | broken => simp
  | more _ _ brings _ _ ih => simp [ih, brings]

/-- Filling up reports a fault of the socket exactly if a read met it. -/
theorem socket_iff (filling : Filling need intake made result intake') (fault : SocketFault) :
    result = .error (.socket fault) ↔ ∃ reading ∈ made, reading.found = .error fault := by
  induction filling with
  | done => simp
  | ended => simp
  | broken => simp [eq_comm]
  | more _ _ _ _ _ ih => simp [ih]

/-- Filling up is given up only at a read that found nothing or failed. -/
theorem stopped {e : ReadError} (filling : Filling need intake made (.error e) intake') :
    ∃ reading ∈ made, reading.found = .ok [] ∨ ∃ fault, reading.found = .error fault := by
  generalize failed : Except.error e = result at filling
  induction filling with
  | done => cases failed
  | ended => exact ⟨_, List.mem_singleton_self _, .inl rfl⟩
  | broken => exact ⟨_, List.mem_singleton_self _, .inr ⟨_, rfl⟩⟩
  | more _ _ _ _ _ ih =>
    obtain ⟨reading, among, found⟩ := ih failed
    exact ⟨reading, List.mem_cons_of_mem _ among, found⟩

/-- Nothing is read after a read that found nothing. -/
theorem at_end (filling : Filling need intake made result intake') :
    ∀ reading ∈ made, reading.found = .ok [] → reading.kept = intake'.buffer := by
  induction filling with
  | done => simp
  | ended => simp
  | broken => simp
  | more _ _ brings _ _ ih => simpa [brings] using ih

/-- Nothing is read after a read that failed. -/
theorem untouched (filling : Filling need intake made result intake') :
    ∀ reading ∈ made, ∀ fault, reading.found = .error fault → reading.kept = intake'.buffer := by
  induction filling with
  | done => simp
  | ended => simp
  | broken => simp
  | more _ _ _ _ _ ih => simpa using ih

/-- Every read but the last brings a byte that is kept. -/
theorem length_le (grows : ∀ kept more, need kept ≤ need (kept ++ more))
    (filling : Filling need intake made result intake') :
    made.length ≤ need intake'.buffer - intake.buffer.length := by
  induction filling with
  | done => exact Nat.zero_le _
  | ended lacks | broken lacks => exact Nat.sub_pos_of_lt lacks
  | @more intake intake' _ bytes keeps _ _ lacks _ brings keeping others ih =>
    obtain ⟨added, whole⟩ := others.grows
    have needed : need intake.buffer ≤ need intake'.buffer := by
      rw [← whole, keeping, List.append_assoc]
      exact grows _ _
    have some : 0 < bytes.length := List.length_pos_iff.2 brings
    have longer : keeps.length
        = intake.buffer.length + min (need intake.buffer - intake.buffer.length) bytes.length := by
      rw [keeping, List.length_append, List.length_take]
    rw [List.length_cons]
    simp only at ih
    omega

end Filling

/-- The reads of filling up to a goal, which is what is needed until it is reached. -/
theorem Intake.exists_filling {need : Bytes → Nat} (goal : Nat) (intake : Intake)
    (needed : ∀ kept, intake.buffer <+: kept → kept.length < goal → need kept = goal) :
    ∃ made, Filling need intake made (fill goal intake).1 (fill goal intake).2 := by
  fun_induction fill goal intake with
  | case1 intake enough => exact ⟨[], .done intake⟩
  | case2 intake short fault rest read =>
    have lacks := Nat.not_le.1 short
    exact ⟨_, .broken (by rwa [needed _ (List.prefix_refl _) lacks]) read⟩
  | case3 intake short rest read =>
    have lacks := Nat.not_le.1 short
    have goal_eq := needed _ (List.prefix_refl _) lacks
    rw [← goal_eq] at lacks ⊢
    exact ⟨_, .ended lacks read⟩
  | case4 intake short bytes rest read brings ih =>
    have lacks := Nat.not_le.1 short
    have goal_eq := needed _ (List.prefix_refl _) lacks
    obtain ⟨later, filling⟩ := ih fun kept front =>
      needed kept ((List.prefix_append _ _).trans front)
    exact ⟨_, .more (by rwa [goal_eq]) read brings (by rw [goal_eq]) filling⟩

/-- After filling up that succeeds, as many bytes are kept as were asked for. -/
theorem Intake.le_length_of_fill (goal : Nat) (intake : Intake) :
    (fill goal intake).1 = .ok () → goal ≤ (fill goal intake).2.buffer.length := by
  fun_induction fill goal intake with
  | case1 intake enough => exact fun _ => enough
  | case2 | case3 => simp
  | case4 _ _ _ _ _ _ ih => exact ih

/-! ## The header -/

/-- The read that is made for the header, unless it is known: what comes of it, and where it leaves
the intake. -/
inductive Opening (before : Intake) :
    List Reading → Except ReadError RequestHeader → Intake → Prop where
  | known {header : RequestHeader} (known : before.header? = some header) :
      Opening before [] (.ok header) before
  | broken {rest : Incoming} {fault : SocketFault} (unknown : before.header? = none)
      (read : before.incoming.read before.room = (.error fault, rest)) :
      Opening before [⟨before.buffer, .error fault, before.buffer⟩] (.error (.socket fault))
        { before with incoming := rest }
  | malformed {rest : Incoming} {bytes : Bytes} {cause : WireError}
      (unknown : before.header? = none)
      (read : before.incoming.read before.room = (.ok bytes, rest))
      (decoded : RequestHeader.decode (before.buffer ++ bytes) = .error cause) :
      Opening before [⟨before.buffer, .ok bytes, before.buffer ++ bytes⟩]
        (.error (.malformed cause))
        { before with buffer := before.buffer ++ bytes, incoming := rest }
  | read {rest : Incoming} {bytes : Bytes} {header : RequestHeader}
      (unknown : before.header? = none)
      (read : before.incoming.read before.room = (.ok bytes, rest))
      (decoded : RequestHeader.decode (before.buffer ++ bytes) = .ok header) :
      Opening before [⟨before.buffer, .ok bytes, before.buffer ++ bytes⟩] (.ok header)
        { before with
          buffer := before.buffer ++ bytes
          header? := some header
          incoming := rest }

/-- However the header is read, the reads made for it are listed. -/
theorem Intake.exists_opening (before : Intake) :
    ∃ made, Opening before made (readHeader.outcome before).1 (readHeader.outcome before).2 := by
  cases known : before.header? with
  | some header =>
    rw [outcome_readHeader_of_known known]
    exact ⟨[], .known known⟩
  | none =>
    rw [outcome_readHeader_of_unknown known]
    cases read : before.incoming.read before.room with
    | mk found rest =>
      cases found with
      | error fault => exact ⟨_, .broken known read⟩
      | ok bytes =>
        simp only
        cases decoded : RequestHeader.decode (before.buffer ++ bytes) with
        | error cause => exact ⟨_, .malformed known read decoded⟩
        | ok header => exact ⟨_, .read known read decoded⟩

namespace Opening

variable {before after : Intake} {made : List Reading} {result : Except ReadError RequestHeader}

/-- The reads made for the header follow each other. -/
theorem readings (opening : Opening before made result after) :
    Readings before.room before.buffer before.incoming made after.buffer after.incoming := by
  cases opening with
  | known => exact .none _ _
  | broken _ read | malformed _ read | read _ read => exact .read read (.none _ _)

/-- Reading the header leaves the size of the reads as it is. -/
theorem room (opening : Opening before made result after) : after.room = before.room := by
  cases opening <;> rfl

/-- A read is made for the header exactly if it is not known. -/
theorem length_eq (opening : Opening before made result after) :
    made.length = if before.header? = none then 1 else 0 := by
  cases opening with
  | known known => simp [known]
  | broken unknown | malformed unknown | read unknown => simp [unknown]

/-- All that a read for the header brings is kept. -/
theorem keeps (opening : Opening before made result after) :
    ∀ reading ∈ made, reading.Keeps id := by
  cases opening <;> simp [Reading.Keeps]

/-- Reading the header only adds to what is kept. -/
theorem grows (opening : Opening before made result after) : before.buffer <+: after.buffer := by
  cases opening with
  | known | broken => exact List.prefix_refl _
  | malformed | read => exact List.prefix_append _ _

/-- Reading the header never reports a truncation. -/
theorem not_truncated (opening : Opening before made result after) (expected received : Nat) :
    result ≠ .error (.truncated expected received) := by
  cases opening <;> simp

/-- Reading the header reports a fault of the socket exactly if its read met it. -/
theorem socket_iff (opening : Opening before made result after) (fault : SocketFault) :
    result = .error (.socket fault) ↔ ∃ reading ∈ made, reading.found = .error fault := by
  cases opening <;> simp [eq_comm]

/-- A read that fails adds nothing to what is kept. -/
theorem untouched (opening : Opening before made result after) :
    ∀ reading ∈ made, ∀ fault, reading.found = .error fault → reading.kept = after.buffer := by
  cases opening <;> simp

/-- The header that becomes known is the one at the front of what is kept. -/
theorem headed (opening : Opening before made result after) (headed : before.Headed) :
    after.Headed := by
  cases opening with
  | known | broken => exact headed
  | malformed unknown =>
    intro header known
    cases unknown.symm.trans known
  | read unknown read decoded =>
    intro header known
    cases known
    exact decoded

/-- Where the read for the header fails or brings none, no header is known. -/
theorem header?_of_error {e : ReadError} (opening : Opening before made (.error e) after) :
    after.header? = none := by
  cases opening with
  | broken unknown | malformed unknown => exact unknown

/-- The header that was read is known from then on. -/
theorem header?_of_ok {header : RequestHeader} (opening : Opening before made (.ok header) after) :
    after.header? = some header := by
  cases opening with
  | known known => exact known
  | read => rfl

end Opening

end Connection

end MessageRelay
