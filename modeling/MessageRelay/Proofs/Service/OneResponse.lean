import MessageRelay.Proofs.Connection.Sending
import MessageRelay.Proofs.Service.Preparation
import MessageRelay.Proofs.Service.Visit

/-!
# At most one response on a connection

A connection ends in silence, with one whole response, or within one (`Ending`). Nothing goes out
before the reply is ready. From there on the reply's response is sent, or the news that the request
failed if the response has no encoding (`Reply.outgoing`); since sending begins only with an
encoding at hand, the two never mix. What the other side makes of the writes, how the connection was
read and what the store does are free in all of this, and so is the router. The record that is kept
of a connection calls its reply sent exactly if it is that one whole response (`sent_attend_iff`).
-/

set_option autoImplicit false

namespace MessageRelay.Service

open Connection
open Protocol
open Store (RelayStore)

variable {σ : Type}

/-- The response that goes out for a reply. -/
def Reply.outgoing (reply : Reply) : Response :=
  match reply.response.encode with
  | .ok _ => reply.response
  | .error _ => .genericError

/-- The response of a reply goes out if it has an encoding. -/
theorem Reply.outgoing_of_encode {reply : Reply} (h : ∃ message, reply.response.encode = .ok message) :
    reply.outgoing = reply.response := by
  obtain ⟨message, encoded⟩ := h
  rw [outgoing, encoded]

/-- A generic error goes out in the place of a response without an encoding. -/
theorem Reply.outgoing_of_not_encode {reply : Reply}
    (h : ¬ ∃ message, reply.response.encode = .ok message) : reply.outgoing = .genericError := by
  unfold outgoing
  split
  · rename_i message encoded
    exact absurd ⟨message, encoded⟩ h
  · rfl

/-- What goes out and is not a generic error is the response of the reply. -/
theorem Reply.outgoing_of_ne_genericError {reply : Reply}
    (h : reply.outgoing ≠ .genericError) : reply.outgoing = reply.response := by
  unfold outgoing at h ⊢
  cases encoded : reply.response.encode with
  | ok message => rfl
  | error wire =>
    rw [encoded] at h
    exact absurd rfl h

/-- How a connection ends on which one response is sent and nothing else. -/
inductive Answered (packetSize : Nat) (peer : Peer) (response : Response) :
    Except DispatchError ResponseCode → Outbox → Prop where
  | whole {bytes : Bytes} {outbox : Outbox} (framing : framed packetSize response = .ok bytes)
      (taken : outbox.taken = bytes) : Answered packetSize peer response (.ok response.code) outbox
  /-- All bytes are out only if it was the flush that failed. -/
  | broken {bytes : Bytes} {outbox : Outbox} {cause : SendError}
      (framing : framed packetSize response = .ok bytes) (begun : ∀ wire, cause ≠ .notEncoded wire)
      (front : outbox.taken <+: bytes)
      (flush : outbox.taken = bytes →
        ∃ fault, peer.flush outbox.sizes = some fault ∧ cause = .socket fault) :
      Answered packetSize peer response (.error (.notSent cause)) outbox

/-- How a connection ends. -/
inductive Ending (packetSize : Nat) (peer : Peer) :
    Except DispatchError ResponseCode → Outbox → Prop where
  | silent {cause : DispatchError} (early : ∀ sending, cause ≠ .notSent sending) :
      Ending packetSize peer (.error cause) .empty
  | response {response : Response} {result : Except DispatchError ResponseCode} {outbox : Outbox}
      (answered : Answered packetSize peer response result outbox) :
      Ending packetSize peer result outbox

/-! ## Sending the reply -/

/-- Sending a framed response from an empty outbox is one of the ways in which a connection with one
response ends. -/
theorem answered_of_sending {packetSize : Nat} {peer : Peer} {response : Response} {bytes : Bytes}
    (framing : framed packetSize response = .ok bytes) {sent : Except SendError Nat × Outbox}
    (sending : Outbox.Sending peer bytes .empty sent) :
    Answered packetSize peer response ((sent.1.mapError .notSent).map fun _ => response.code)
      sent.2 := by
  cases sending with
  | whole taken => exact .whole framing taken
  | @unflushed fault outbox flush taken =>
    exact .broken framing (by simp) (by rw [taken]; exact List.prefix_refl bytes)
      fun _ => ⟨fault, flush, rfl⟩
  | front front back joined more taken begun =>
    refine .broken framing begun ⟨back, by rw [taken]; exact joined⟩ ?_
    intro all
    rw [taken, ← joined] at all
    exact absurd (List.self_eq_append_right.1 all) more

/-- The framing of an encoded response is what its packets join up to. -/
theorem framed_of_encode (packetSize : Nat) {response : Response} {message : Bytes}
    (h : response.encode = .ok message) :
    framed packetSize response = .ok (Framing.split packetSize message).flatten := by
  rw [framed, h]
  rfl

namespace Relay

/-- A reply with an encoding is answered with by sending it. -/
theorem answer_of_encode (relay : Relay) (peer : Peer) (code : RequestCode) (sender : ClientId)
    {reply : Reply} {message : Bytes} (encoded : reply.response.encode = .ok message)
    (cycle : Cycle σ) :
    let sent := Outbox.send peer relay.packetSize reply.response cycle.outbox
    ((relay.answer peer code sender reply).run cycle).result.map Prod.fst
        = (sent.1.mapError .notSent).map (fun _ => reply.response.code) ∧
      ((relay.answer peer code sender reply).run cycle).state.outbox = sent.2 := by
  have sending := Outbox.send_sending peer cycle.outbox (framed_of_encode relay.packetSize encoded)
  unfold answer
  simp only [Action.run_bind, Action.run_attempt, Cycle.result_sending, Cycle.state_sending]
  generalize Outbox.send peer relay.packetSize reply.response cycle.outbox = sent at sending ⊢
  obtain ⟨result, outbox⟩ := sent
  -- an encoding is at hand, so the one error that would start over does not come up
  match result with
  | .ok n => exact ⟨rfl, rfl⟩
  | .error (.notEncoded wire) =>
    cases sending with
    | front _ _ _ _ _ begun => exact absurd rfl (begun wire)
  | .error .stalled => exact ⟨rfl, rfl⟩
  | .error (.socket fault) => exact ⟨rfl, rfl⟩

/-- A reply without an encoding is answered with by sending a generic error. -/
theorem answer_of_not_encode (relay : Relay) (peer : Peer) (code : RequestCode)
    (sender : ClientId) {reply : Reply} {wire : WireError}
    (unencoded : reply.response.encode = .error wire) (cycle : Cycle σ) :
    let sent := Outbox.send peer relay.packetSize .genericError cycle.outbox
    ((relay.answer peer code sender reply).run cycle).result.map Prod.fst
        = (sent.1.mapError .notSent).map (fun _ => .genericError) ∧
      ((relay.answer peer code sender reply).run cycle).state.outbox = sent.2 := by
  have unsent : Outbox.send peer relay.packetSize reply.response cycle.outbox
      = (.error (.notEncoded wire), cycle.outbox) := by
    simp only [Outbox.send, unencoded]
  unfold answer
  simp only [Action.run_bind, Action.run_attempt, Action.run_tell, Action.run_mapError,
    Action.run_pure, Cycle.result_sending, Cycle.state_sending, unsent]
  generalize Outbox.send peer relay.packetSize .genericError cycle.outbox = sent
  obtain ⟨result, outbox⟩ := sent
  cases result with
  | ok n => exact ⟨rfl, rfl⟩
  | error cause => exact ⟨rfl, rfl⟩

/-- Answering with a reply sends its outgoing response and nothing else. -/
theorem answer_answered (relay : Relay) (peer : Peer) (code : RequestCode) (sender : ClientId)
    (reply : Reply) {cycle : Cycle σ} (unused : cycle.outbox = .empty) :
    Answered relay.packetSize peer reply.outgoing
      (((relay.answer peer code sender reply).run cycle).result.map Prod.fst)
      ((relay.answer peer code sender reply).run cycle).state.outbox := by
  cases encoded : reply.response.encode with
  | ok message =>
    obtain ⟨result, outbox⟩ := relay.answer_of_encode peer code sender encoded cycle
    have framing := framed_of_encode relay.packetSize encoded
    rw [Reply.outgoing_of_encode ⟨message, encoded⟩, result, outbox, unused]
    exact answered_of_sending framing (Outbox.send_sending peer .empty framing)
  | error wire =>
    obtain ⟨result, outbox⟩ := relay.answer_of_not_encode peer code sender encoded cycle
    have encodes : Response.genericError.encode = .ok _ := rfl
    have framing := framed_of_encode relay.packetSize encodes
    rw [Reply.outgoing_of_not_encode (by simp [encoded]), result, outbox, unused]
    exact answered_of_sending framing (Outbox.send_sending peer .empty framing)

variable [RelayStore σ]

/-- Removing always comes to its end, and nothing goes out meanwhile. -/
theorem outbox_removeDelivered (client : ClientId) (ids : List UInt32) (cycle : Cycle σ) :
    ((removeDelivered client ids).run cycle).result = .ok () ∧
      ((removeDelivered client ids).run cycle).state.outbox = cycle.outbox := by
  induction ids generalizing cycle with
  | nil => exact ⟨rfl, rfl⟩
  | cons id ids ih =>
    obtain ⟨result, state⟩ := run_removeDelivered_cons client id ids cycle
    rw [result, state]
    exact ih _

/-- A reply is finished as it is answered with: what is removed behind it neither fails nor goes
out. -/
theorem finish_eq_answer (relay : Relay) (peer : Peer) (prepared : Prepared) (cycle : Cycle σ) :
    ((relay.finish peer prepared).run cycle).result
        = ((relay.answer peer prepared.code prepared.sender prepared.reply).run
            cycle).result.map Prod.fst ∧
      ((relay.finish peer prepared).run cycle).state.outbox
        = ((relay.answer peer prepared.code prepared.sender prepared.reply).run
            cycle).state.outbox := by
  unfold finish
  rw [Action.run_bind]
  cases result : ((relay.answer peer prepared.code prepared.sender prepared.reply).run
      cycle).result with
  | error cause => exact ⟨rfl, rfl⟩
  | ok sent =>
    obtain ⟨removed, outbox⟩ := outbox_removeDelivered prepared.sender sent.2
      ((relay.answer peer prepared.code prepared.sender prepared.reply).run cycle).state
    simp only [Action.run_bind, removed]
    exact ⟨rfl, outbox⟩

/-- Finishing with a reply sends its outgoing response and nothing else, whatever becomes of the
removals behind it. -/
theorem finish_answered (relay : Relay) (peer : Peer) (prepared : Prepared) {cycle : Cycle σ}
    (unused : cycle.outbox = .empty) :
    Answered relay.packetSize peer prepared.reply.outgoing
      ((relay.finish peer prepared).run cycle).result
      ((relay.finish peer prepared).run cycle).state.outbox := by
  obtain ⟨result, outbox⟩ := relay.finish_eq_answer peer prepared cycle
  rw [result, outbox]
  exact relay.answer_answered peer prepared.code prepared.sender prepared.reply unused

/-- To a side that takes everything a reply is sent, or the news that it has no encoding. -/
theorem finish_of_steady {peer : Peer} (steady : peer.Steady) (relay : Relay)
    (prepared : Prepared) {cycle : Cycle σ} :
    ∃ code, ((relay.finish peer prepared).run cycle).result = .ok code := by
  rw [(relay.finish_eq_answer peer prepared cycle).1]
  cases encoded : prepared.reply.response.encode with
  | ok message =>
    obtain ⟨size, sent⟩ := Outbox.send_of_steady steady relay.packetSize encoded cycle.outbox
    rw [(relay.answer_of_encode peer prepared.code prepared.sender encoded cycle).1, sent]
    exact ⟨_, rfl⟩
  | error wire =>
    have encodes : Response.genericError.encode = .ok _ := rfl
    obtain ⟨size, sent⟩ := Outbox.send_of_steady steady relay.packetSize encodes cycle.outbox
    rw [(relay.answer_of_not_encode peer prepared.code prepared.sender encoded cycle).1, sent]
    exact ⟨_, rfl⟩

/-- A reply is sent exactly if the connection ends with its code and its bytes are what went out. -/
theorem isOk_send_iff_finish (relay : Relay) (peer : Peer) (prepared : Prepared) {cycle : Cycle σ}
    (unused : cycle.outbox = .empty) :
    (Outbox.send peer relay.packetSize prepared.reply.response cycle.outbox).1.isOk = true ↔
      ((relay.finish peer prepared).run cycle).result = .ok prepared.reply.response.code ∧
        framed relay.packetSize prepared.reply.response
          = .ok ((relay.finish peer prepared).run cycle).state.outbox.taken := by
  cases encoded : prepared.reply.response.encode with
  | error wire =>
    have unframed : framed relay.packetSize prepared.reply.response = .error wire := by
      rw [framed, encoded]
      rfl
    rw [Outbox.send_of_not_framed peer cycle.outbox unframed, unframed]
    exact ⟨fun sent => Bool.noConfusion sent, fun ⟨_, whole⟩ => nomatch whole⟩
  | ok message =>
    have framing := framed_of_encode relay.packetSize encoded
    have sending := Outbox.send_sending peer cycle.outbox framing
    obtain ⟨finished, left_⟩ := relay.finish_eq_answer peer prepared cycle
    obtain ⟨result, outbox⟩ :=
      relay.answer_of_encode peer prepared.code prepared.sender encoded cycle
    rw [finished, left_, result, outbox, framing]
    generalize Outbox.send peer relay.packetSize prepared.reply.response cycle.outbox = sent
      at sending ⊢
    cases sending with
    | whole taken =>
      rw [taken, unused]
      exact ⟨fun _ => ⟨rfl, rfl⟩, fun _ => rfl⟩
    | unflushed => exact ⟨fun sent => Bool.noConfusion sent, fun ⟨coded, _⟩ => nomatch coded⟩
    | front => exact ⟨fun sent => Bool.noConfusion sent, fun ⟨coded, _⟩ => nomatch coded⟩

/-! ## One connection -/

/-- A connection on which no reply gets ready. -/
theorem dispatch_of_unready {relay : Relay} {circumstances : Circumstances} {cycle : Cycle σ}
    {cause : DispatchError} (peer : Peer)
    (h : ((relay.prepare circumstances).run cycle).result = .error cause) :
    (relay.dispatch circumstances peer).run cycle
      = ⟨.error cause, ((relay.prepare circumstances).run cycle).state,
          ((relay.prepare circumstances).run cycle).notices⟩ := by
  rw [dispatch, Action.run_bind, h]

/-- A connection off which no header is read gets no answer, and the store does not notice it. -/
theorem dispatchOn_of_no_header (relay : Relay) (circumstances : Circumstances) (peer : Peer)
    {incoming : Incoming}
    (unread : ∀ {header intake},
      Intake.readHeader.outcome (Intake.start relay.packetSize incoming) ≠ (.ok header, intake))
    (store : σ) :
    (∃ cause, (relay.dispatchOn circumstances peer incoming store).result
        = .error (.badHeader cause)) ∧
      (relay.dispatchOn circumstances peer incoming store).state.store = store ∧
      (relay.dispatchOn circumstances peer incoming store).state.outbox = .empty := by
  have preparation := relay.prepare_preparation circumstances
    ⟨store, Intake.start relay.packetSize incoming, .empty⟩
  rw [dispatchOn]
  cases ready : ((relay.prepare circumstances).run
    ⟨store, Intake.start relay.packetSize incoming, .empty⟩).result with
  | ok prepared =>
    rw [ready] at preparation
    cases preparation with
    | ready read => exact absurd read unread
  | error cause =>
    rw [dispatch_of_unready peer ready]
    rw [ready] at preparation
    generalize ((relay.prepare circumstances).run
      ⟨store, Intake.start relay.packetSize incoming, .empty⟩).state = left at preparation ⊢
    cases preparation with
    | badHeader read => exact ⟨⟨_, rfl⟩, rfl, rfl⟩
    | unknownCode read => exact absurd read unread
    | turnedAway read => exact absurd read unread

/-- A connection on which a reply gets ready is one on which its response goes out. -/
theorem dispatch_answered {relay : Relay} {circumstances : Circumstances} {cycle : Cycle σ}
    {prepared : Prepared} (peer : Peer) (unused : cycle.outbox = .empty)
    (h : ((relay.prepare circumstances).run cycle).result = .ok prepared) :
    Answered relay.packetSize peer prepared.reply.outgoing
      ((relay.dispatch circumstances peer).run cycle).result
      ((relay.dispatch circumstances peer).run cycle).state.outbox := by
  have still : ((relay.prepare circumstances).run cycle).state.outbox = .empty :=
    (outbox_prepare relay circumstances cycle).trans unused
  have finished := relay.finish_answered peer prepared still
  rw [dispatch, Action.run_bind, h]
  exact finished

/-- However a connection is read and written, and whatever the store does, at most one response goes
out on it, and that from its front. A connection that ends before never writes: nothing would be
different with another side to write to. A reply without an encoding gives way to the news that the
request failed. -/
theorem dispatchOn_one_response (relay : Relay) (circumstances : Circumstances) (peer : Peer)
    (incoming : Incoming) (store : σ) :
    Ending relay.packetSize peer (relay.dispatchOn circumstances peer incoming store).result
        (relay.dispatchOn circumstances peer incoming store).state.outbox ∧
      (∀ cause, (relay.dispatchOn circumstances peer incoming store).result = .error cause →
        (∀ sending, cause ≠ .notSent sending) → ∀ other,
        relay.dispatchOn circumstances other incoming store
          = relay.dispatchOn circumstances peer incoming store) ∧
      ∀ prepared wire,
        ((relay.prepare circumstances).run
          ⟨store, Intake.start relay.packetSize incoming, .empty⟩).result = .ok prepared →
        prepared.reply.response.encode = .error wire →
        Answered relay.packetSize peer .genericError
          (relay.dispatchOn circumstances peer incoming store).result
          (relay.dispatchOn circumstances peer incoming store).state.outbox := by
  unfold dispatchOn
  cases ready : ((relay.prepare circumstances).run
    ⟨store, Intake.start relay.packetSize incoming, .empty⟩).result with
  | error cause =>
    -- nothing is sent while the reply is prepared, so no error of sending stops it
    have early : ∀ sending, cause ≠ .notSent sending := by
      rintro sending rfl
      exact prepare_ne_notSent ready
    refine ⟨?_, ?_, ?_⟩
    · rw [dispatch_of_unready peer ready, outbox_prepare]
      exact .silent early
    · intro _ _ _ other
      rw [dispatch_of_unready peer ready, dispatch_of_unready other ready]
    · intro prepared wire h
      cases h
  | ok prepared =>
    have answered := dispatch_answered peer rfl ready
    refine ⟨.response answered, ?_, ?_⟩
    · intro cause failed early
      rw [failed] at answered
      cases answered with
      | broken => exact absurd rfl (early _)
    · intro _ wire h unencoded
      cases h
      have generic : prepared.reply.outgoing = .genericError := by
        rw [Reply.outgoing, unencoded]
      rwa [generic] at answered

end Relay

/-! ## What counts as sent -/

variable [RelayStore σ]

/-- The reply of a connection counts as sent exactly if the connection itself ended with the code of
that reply and the bytes of the reply are what went out on it. -/
theorem sent_attend_iff (packetSize : Nat) (visit : Visit) (store : σ) :
    (attend packetSize visit store).1.sent = true ↔
      ∃ reply, (attend packetSize visit store).1.reply? = some reply ∧
        let out := (Relay.ofPacketSize packetSize).dispatchOn visit.circumstances visit.peer
          visit.incoming store
        out.result = .ok reply.response.code ∧
          framed packetSize reply.response = .ok out.state.outbox.taken := by
  -- the connection over the store itself ends as the one that is watched
  have watched := dispatchOn_chronicle (Relay.ofPacketSize packetSize) visit.circumstances visit.peer
    visit.incoming store
  have outbox := watched.states.outbox
  simp only [← watched.result, ← outbox]
  let relay := Relay.ofPacketSize packetSize
  let start := visit.start packetSize store
  show _ ↔ ∃ reply : Reply, _ = some reply ∧
    ((relay.dispatch visit.circumstances visit.peer).run start).result = .ok reply.response.code ∧
      framed packetSize reply.response
        = .ok ((relay.dispatch visit.circumstances visit.peer).run start).state.outbox.taken
  cases ready : ((relay.prepare visit.circumstances).run start).result with
  | error cause =>
    obtain ⟨nothing, unsent⟩ := attend_of_unready ready
    simp only [nothing, unsent, reduceCtorEq, false_and, exists_false]
  | ok prepared =>
    obtain ⟨reply, sent⟩ := attend_of_ready ready
    have unused : ((relay.prepare visit.circumstances).run start).state.outbox = .empty :=
      Relay.outbox_prepare relay visit.circumstances start
    simp only [reply, sent, Option.some.injEq, exists_eq_left']
    rw [Relay.dispatch, (Action.run_bind_of_ok ready).1, (Action.run_bind_of_ok ready).2]
    exact Relay.isOk_send_iff_finish relay visit.peer prepared unused

end MessageRelay.Service
