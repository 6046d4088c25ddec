import MessageRelay.Proofs.Connection.Readings
import MessageRelay.Proofs.Protocol.BodyGrammar

/-!
# What is demanded of an intake

An intake is asked for the header of its request or for the request itself, any number of times and
in any order, whatever became of it before (`Demand`). From the reads that it makes for that follows
everything that comes of it (`Demand.Account`): what is kept and what is dropped, what is answered,
and which error is reported (`Intake.demands_accounted`).
-/

set_option autoImplicit false

namespace MessageRelay.Connection

open Protocol

/-! ## What is asked of an intake -/

/-- What an intake is asked for: the header of its request, or the request with a code. -/
inductive Demand where
  | header
  | body (code : RequestCode)

namespace Demand

/-- What a demand is answered with. -/
abbrev Answer : Demand → Type
  | header => RequestHeader
  | body _ => Request

/-- How a demand is met. -/
def meet : (demand : Demand) → Assembling demand.Answer
  | header => Intake.readHeader
  | body code => Intake.readBody code

/-- What the bytes that are kept say. -/
def decode : (demand : Demand) → Bytes → Except WireError demand.Answer
  | header, kept => RequestHeader.decode kept
  | body code, kept => Request.decodeBody code (kept.drop requestHeaderSize)

/-- How many bytes have to be kept, as far as those that are kept tell. -/
def needed : Demand → Bytes → Nat
  | header, _ => requestHeaderSize
  | body .register, _ => requestHeaderSize + registrationSize
  | body .publicKey, _ => requestHeaderSize + publicKeyLookupSize
  | body .clientsList, _ | body .unreadMessages, _ => requestHeaderSize
  | body .sendMessage, kept =>
    if kept.length < requestHeaderSize + sendPreludeSize then requestHeaderSize + sendPreludeSize
    else requestHeaderSize + (sendPreludeSize + Request.declaredSize (kept.drop requestHeaderSize))

/-- Once the prelude of a message is kept, it is settled how many bytes the message needs. -/
theorem needed_message {kept kept' : Bytes} (front : kept <+: kept')
    (whole : requestHeaderSize + sendPreludeSize ≤ kept.length) :
    (body .sendMessage).needed kept' = requestHeaderSize +
      (sendPreludeSize + Request.declaredSize (kept.drop requestHeaderSize)) := by
  obtain ⟨more, rfl⟩ := front
  have longer : ¬ (kept ++ more).length < requestHeaderSize + sendPreludeSize := by
    rw [List.length_append]
    omega
  have prelude : sendPreludeSize ≤ (kept.drop requestHeaderSize).length := by
    rw [List.length_drop]
    omega
  rw [needed, if_neg longer, List.drop_append_of_le_length (by omega),
    Request.declaredSize_append prelude]

/-- More bytes never tell that fewer are needed. -/
theorem needed_le_append (demand : Demand) (kept more : Bytes) :
    demand.needed kept ≤ demand.needed (kept ++ more) := by
  match demand with
  | header | body .register | body .publicKey | body .clientsList | body .unreadMessages =>
    exact Nat.le_refl _
  | body .sendMessage =>
    by_cases whole : requestHeaderSize + sendPreludeSize ≤ kept.length
    · rw [needed_message (List.prefix_append kept more) whole,
        needed_message (List.prefix_refl kept) whole]
    · rw [needed, if_pos (Nat.not_le.1 whole), needed]
      split <;> omega

end Demand

namespace Intake

/-- What becomes of a request once it is known how wide its body is. -/
theorem outcome_filled (code : RequestCode) (size : Nat) (intake : Intake) :
    (do
        fillTo (requestHeaderSize + size)
        lift (Request.decodeBody code ((← get).buffer.drop requestHeaderSize)) :
        Assembling Request).outcome intake =
      ((fill (requestHeaderSize + size) intake).1.bind fun _ =>
          ((Demand.body code).decode (fill (requestHeaderSize + size) intake).2.buffer).mapError
            .malformed,
        (fill (requestHeaderSize + size) intake).2) := by
  rw [Assembling.outcome_bind, Assembling.outcome_fillTo]
  obtain ⟨_ | _, after⟩ := fill (requestHeaderSize + size) intake
  · rfl
  · simp only [Assembling.outcome_bind, Assembling.outcome_get, Assembling.outcome_lift]
    rfl

/-- The reads of finding out how wide a body is. -/
theorem exists_filling_bodySize (code : RequestCode) (intake : Intake) :
    ∃ made filled after size, Filling (Demand.body code).needed intake made filled after ∧
      (bodySize code).outcome intake = (filled.map fun _ => size, after) ∧
      (filled = .ok () → ∀ kept, after.buffer <+: kept →
        (Demand.body code).needed kept = requestHeaderSize + size) := by
  cases code with
  | register | publicKey | clientsList | unreadMessages =>
    exact ⟨[], _, intake, _, .done intake, rfl, fun _ _ _ => rfl⟩
  | sendMessage =>
    have goal := le_length_of_fill (requestHeaderSize + sendPreludeSize) intake
    obtain ⟨made, filling⟩ := exists_filling (requestHeaderSize + sendPreludeSize) intake
      fun kept _ short => (if_pos short : (Demand.body .sendMessage).needed kept = _)
    simp only [bodySize, Assembling.outcome_bind, Assembling.outcome_fillTo]
    generalize fill (requestHeaderSize + sendPreludeSize) intake = outcome at goal filling ⊢
    obtain ⟨_ | _, after⟩ := outcome
    · exact ⟨made, _, after, 0, filling, rfl, by simp⟩
    · have whole : requestHeaderSize + sendPreludeSize ≤ after.buffer.length := goal rfl
      have prelude : ¬ (after.buffer.drop requestHeaderSize).length < sendPreludeSize := by
        rw [List.length_drop]
        omega
      refine ⟨made, _, after, _, filling, ?_, fun _ _ front => Demand.needed_message front whole⟩
      simp only [Assembling.outcome_get, SendPrelude.decode, if_neg prelude,
        Assembling.outcome_lift_ok, Assembling.outcome_pure, List.drop_drop, Nat.add_assoc,
        Request.declaredSize, Except.map]

/-- The reads of putting a request together behind its header. They are all made if enough is kept
after them. -/
theorem exists_filling_readBody {before middle : Intake} {header : RequestHeader}
    (opened : readHeader.outcome before = (.ok header, middle)) (code : RequestCode) :
    ∃ made filled after, Filling (Demand.body code).needed middle made filled after ∧
      (filled = .ok () → (Demand.body code).needed after.buffer ≤ after.buffer.length) ∧
      (readBody code).outcome before
        = (filled.bind fun _ => ((Demand.body code).decode after.buffer).mapError .malformed,
            after) := by
  obtain ⟨made, filled, between, size, filling, sized, needed⟩ :=
    exists_filling_bodySize code middle
  rw [readBody, Assembling.outcome_bind, opened]
  simp only
  rw [Assembling.outcome_bind, sized]
  cases filled with
  | error e => exact ⟨made, _, between, filling, by simp, rfl⟩
  | ok done =>
    obtain ⟨later, filling'⟩ := exists_filling (requestHeaderSize + size) between
      fun kept front _ => needed rfl kept front
    refine ⟨made ++ later, _, _, filling.append filling', fun whole => ?_,
      outcome_filled code size between⟩
    rw [needed rfl _ filling'.grows]
    exact le_length_of_fill (requestHeaderSize + size) between whole

end Intake

/-! ## What comes of a demand -/

namespace Demand

/-- Whether the content of a message is as long as its prelude declares. -/
def AsDeclared (kept : Bytes) : (demand : Demand) → demand.Answer → Prop
  | body _, .sendMessage _ _ content =>
    content.length = Request.declaredSize (kept.drop requestHeaderSize)
  | _, _ => True

/-- What is read of a body is as long as the body declares. -/
theorem asDeclared_of_decode (demand : Demand) {kept : Bytes} {answer : demand.Answer}
    (h : demand.decode kept = .ok answer) : demand.AsDeclared kept answer := by
  match demand, answer with
  | header, _ => trivial
  | body code, .sendMessage target type content =>
    obtain rfl : RequestCode.sendMessage = code := Request.code_of_decodeBody h
    obtain ⟨-, whole, same⟩ := Request.decodeSend_eq_ok_iff.1 h
    cases same
    exact Request.length_slice_content whole
  | body _, .register _ _ | body _, .clientsList | body _, .publicKey _
  | body _, .unreadMessages => trivial

/-- What comes of a demand: the read for the header, the reads that continue it, what is reported,
and where they leave the intake. -/
structure Account (demand : Demand) (before : Intake) (first later : List Reading)
    (result : Except ReadError demand.Answer) (after : Intake) : Prop where
  /-- The reads lead from what was kept and to be read before to what is kept and left after. -/
  readings : Readings before.room before.buffer before.incoming (first ++ later) after.buffer
    after.incoming
  room : after.room = before.room
  /-- A read is made for the header exactly if none is known, and all it finds is kept. -/
  opens : first.length = if before.header? = none then 1 else 0
  opened : ∀ reading ∈ first, reading.Keeps id
  /-- Any other read is made only while bytes are lacking, and no more are kept than that. -/
  lacks : ∀ reading ∈ later, reading.kept.length < demand.needed reading.kept
  continued : ∀ reading ∈ later,
    reading.Keeps (List.take (demand.needed reading.kept - reading.kept.length))
  within : ∀ reading ∈ later, reading.keeps.length ≤ demand.needed reading.kept
  /-- Behind a header that is known reading goes on until nothing is lacking, unless a read finds
  nothing or fails. -/
  complete : after.header? ≠ none → demand.needed after.buffer ≤ after.buffer.length ∨
    ∃ reading ∈ later, reading.found = .ok [] ∨ ∃ fault, reading.found = .error fault
  /-- There are no more of these reads than bytes that were lacking when the first was made. -/
  few : ∀ reading ∈ later.head?,
    later.length ≤ demand.needed after.buffer - reading.kept.length
  /-- What was kept stays in front. -/
  grows : before.buffer <+: after.buffer
  /-- The other side is reported gone exactly if a read found nothing though bytes were lacking, and
  nothing is read after it. -/
  truncated : ∀ expected received, result = .error (.truncated expected received) ↔
    (∃ reading ∈ later, reading.found = .ok []) ∧
      received = after.buffer.length ∧ expected = demand.needed after.buffer ∧ received < expected
  ended : ∀ reading ∈ later, reading.found = .ok [] → reading.kept = after.buffer
  /-- A fault is reported exactly if a read failed, and nothing is read after it. -/
  broken : ∀ fault, result = .error (.socket fault) ↔
    ∃ reading ∈ first ++ later, reading.found = .error fault
  untouched : ∀ reading ∈ first ++ later, ∀ fault, reading.found = .error fault →
    reading.kept = after.buffer
  /-- What is answered is what the bytes kept say. -/
  decoded : ∀ answer, result = .ok answer → demand.decode after.buffer = .ok answer
  declared : ∀ answer, result = .ok answer → demand.AsDeclared after.buffer answer

variable {before after : Intake} {first later : List Reading}

/-- What the read for the header decides is all that comes of a demand. -/
theorem account_of_opening (demand : Demand) {opened : Except ReadError RequestHeader}
    {result : Except ReadError demand.Answer} (opening : Opening before first opened after)
    (same : ∀ e, result = .error e ↔ opened = .error e)
    (decoded : ∀ answer, result = .ok answer → demand.decode after.buffer = .ok answer)
    (enough : ∀ answer, result = .ok answer → demand.needed after.buffer ≤ after.buffer.length) :
    demand.Account before first [] result after where
  readings := by simpa using opening.readings
  room := opening.room
  opens := opening.length_eq
  opened := opening.keeps
  lacks := by simp
  continued := by simp
  within := by simp
  complete known := by
    cases result with
    | ok answer => exact .inl (enough answer rfl)
    | error e =>
      obtain rfl := (same e).1 rfl
      exact absurd opening.header?_of_error known
  few := by simp
  grows := opening.grows
  truncated expected received := by simpa [same] using opening.not_truncated expected received
  broken fault := by simpa [same] using opening.socket_iff fault
  ended := by simp
  untouched := by simpa using opening.untouched
  decoded := decoded
  declared answer ok := asDeclared_of_decode demand (decoded answer ok)

section

variable {α : Type} {filled : Except ReadError Unit} {said : Except WireError α}

/-- Only the decoding calls a request malformed; any other error is the one of filling up. -/
theorem bind_malformed_eq_error_iff {e : ReadError} (other : ∀ cause, e ≠ .malformed cause) :
    (filled.bind fun _ => said.mapError .malformed) = .error e ↔ filled = .error e := by
  cases filled with
  | error e' => simp [Except.bind]
  | ok done =>
    cases said with
    | error cause => simpa [Except.bind, Except.mapError] using (other cause).symm
    | ok answer => simp [Except.bind, Except.mapError]

/-- What is answered behind filling up is what the bytes kept say. -/
theorem said_of_bind_malformed {answer : α}
    (ok : (filled.bind fun _ => said.mapError .malformed) = .ok answer) : said = .ok answer := by
  cases filled with
  | error e => cases ok
  | ok done =>
    cases said with
    | error cause => cases ok
    | ok other =>
      cases ok
      rfl

end

/-- Behind a header that is known the body is filled up. -/
theorem account_of_filling (code : RequestCode) {middle : Intake} {known : RequestHeader}
    {filled : Except ReadError Unit} (opening : Opening before first (.ok known) middle)
    (filling : Filling (body code).needed middle later filled after)
    (enough : filled = .ok () → (body code).needed after.buffer ≤ after.buffer.length) :
    (body code).Account before first later
      (filled.bind fun _ => ((body code).decode after.buffer).mapError .malformed) after := by
  -- the header was read, so its reads met no fault
  have whole : ∀ reading ∈ first, ∀ fault, reading.found ≠ .error fault := by
    intro reading made fault failed
    cases (opening.socket_iff fault).2 ⟨reading, made, failed⟩
  have readings := filling.readings
  exact {
    readings := opening.readings.append (opening.room ▸ readings)
    room := filling.room.trans opening.room
    opens := opening.length_eq
    opened := opening.keeps
    lacks := filling.lacks
    continued := filling.keeps
    within := filling.within
    complete := fun _ => by
      cases filled with
      | ok done => exact .inl (enough rfl)
      | error e => exact .inr filling.stopped
    few := by
      intro reading begins
      rw [readings.kept_of_head? reading begins]
      exact filling.length_le (body code).needed_le_append
    grows := opening.grows.trans filling.grows
    truncated := fun expected received => by
      rw [bind_malformed_eq_error_iff (by simp)]
      exact filling.truncated_iff expected received
    ended := filling.at_end
    broken := fun fault => by
      rw [bind_malformed_eq_error_iff (by simp), filling.socket_iff]
      constructor
      · rintro ⟨reading, made, failed⟩
        exact ⟨reading, List.mem_append_right _ made, failed⟩
      · rintro ⟨reading, made, failed⟩
        exact ⟨reading, (List.mem_append.1 made).resolve_left fun made =>
          whole reading made fault failed, failed⟩
    untouched := fun reading made fault failed =>
      (List.mem_append.1 made).elim (fun made => absurd failed (whole reading made fault))
        fun made => filling.untouched reading made fault failed
    decoded := fun _ => said_of_bind_malformed
    declared := fun _ ok => asDeclared_of_decode (body code) (said_of_bind_malformed ok) }

end Demand

namespace Intake

/-- Where an intake is left by demands that are made of it one after the other. -/
def after (intake : Intake) (demands : List Demand) : Intake :=
  demands.foldl (fun intake demand => (demand.meet.outcome intake).2) intake

/-- What comes of a demand can be accounted for, and leaves the header that is known the one that
the bytes kept start with. -/
theorem exists_account {before : Intake} (headed : before.Headed) (demand : Demand) :
    (∃ first later,
      demand.Account before first later (demand.meet.outcome before).1
        (demand.meet.outcome before).2) ∧
      (demand.meet.outcome before).2.Headed := by
  obtain ⟨first, opening⟩ := before.exists_opening
  have headed' := opening.headed headed
  cases demand with
  | header =>
    have decoded (answer : RequestHeader) (ok : (readHeader.outcome before).1 = .ok answer) :
        RequestHeader.decode (readHeader.outcome before).2.buffer = .ok answer := by
      rw [ok] at opening
      exact headed' answer opening.header?_of_ok
    exact ⟨⟨first, [], Demand.account_of_opening .header opening (fun _ => Iff.rfl) decoded
      fun answer ok => RequestHeader.length_of_decode (decoded answer ok)⟩, headed'⟩
  | body code =>
    cases opened : readHeader.outcome before with
    | mk result middle =>
      rw [opened] at opening headed'
      cases result with
      | error e =>
        have stopped : (readBody code).outcome before = (.error e, middle) := by
          rw [readBody, Assembling.outcome_bind, opened]
        simp only [Demand.meet, stopped]
        exact ⟨⟨first, [], Demand.account_of_opening (.body code) opening (by simp) (by simp)
          (by simp)⟩, headed'⟩
      | ok known =>
        obtain ⟨later, filled, after, filling, enough, outcome⟩ :=
          exists_filling_readBody opened code
        simp only [Demand.meet, outcome]
        refine ⟨⟨first, later, Demand.account_of_filling code opening filling enough⟩, ?_⟩
        exact filling.headed headed'

/-- At the start no header is known, so nothing has to be said of it. -/
theorem headed_start (packetSize : Nat) (incoming : Incoming) :
    (start packetSize incoming).Headed := by
  intro header known
  cases known

/-- Whatever is demanded, a known header stays the one at the front of what is kept. -/
theorem headed_after {intake : Intake} (headed : intake.Headed) (demands : List Demand) :
    (intake.after demands).Headed := by
  induction demands generalizing intake with
  | nil => exact headed
  | cons demand demands ih => exact ih (exists_account headed demand).2

/-- No demand changes how much is read at a time. -/
theorem room_after {intake : Intake} (headed : intake.Headed) (demands : List Demand) :
    (intake.after demands).room = intake.room := by
  induction demands generalizing intake with
  | nil => rfl
  | cons demand demands ih =>
    obtain ⟨⟨first, later, account⟩, headed'⟩ := exists_account headed demand
    exact (ih headed').trans account.room

/-- What is kept stays, whatever is demanded next and whatever becomes of it. -/
theorem grows_after {intake : Intake} (headed : intake.Headed) (demands : List Demand) :
    intake.buffer <+: (intake.after demands).buffer := by
  induction demands generalizing intake with
  | nil => exact List.prefix_refl _
  | cons demand demands ih =>
    obtain ⟨⟨first, later, account⟩, headed'⟩ := exists_account headed demand
    exact account.grows.trans (ih headed')

/-- Whatever was demanded of an intake before, what comes of the next demand can be accounted for by
the reads that are made for it; these are the only ones that lead to what is left to be read, if
anything is left. What is kept stays for good. -/
theorem demands_accounted (packetSize : Nat) (incoming : Incoming) (demands : List Demand)
    (demand : Demand) :
    let before := (start packetSize incoming).after demands
    let outcome := demand.meet.outcome before
    before.room = max packetSize requestHeaderSize ∧
    (∃ first later, demand.Account before first later outcome.1 outcome.2 ∧
      ∀ others last, outcome.2.incoming ≠ [] →
        Readings before.room before.buffer before.incoming others last outcome.2.incoming →
          others.map (·.found) = (first ++ later).map (·.found)) ∧
      ∀ next, outcome.2.buffer <+: (outcome.2.after next).buffer := by
  intro before outcome
  have begun := headed_start packetSize incoming
  have headed : before.Headed := headed_after begun demands
  obtain ⟨⟨first, later, account⟩, headed'⟩ := exists_account headed demand
  refine ⟨room_after begun demands, ⟨first, later, account, ?_⟩, grows_after headed'⟩
  intro others last remains made
  exact made.unique before.room_pos account.readings remains

end Intake

end MessageRelay.Connection
