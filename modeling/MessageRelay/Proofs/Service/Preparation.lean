import MessageRelay.Proofs.Connection.Reassembly
import MessageRelay.Proofs.Service.DispatchSimulation

/-!
# How a reply is prepared

Everything that can become of a request before anything is sent is listed once: reading its body and
handling it (`Serving`), and the checks before that (`Preparation`). Preparing a reply uses the
store and what arrives on the connection; what goes out is not touched (`outbox_prepare`).
-/

set_option autoImplicit false

namespace MessageRelay.Service

open Connection
open Protocol
open Store (RelayStore StoreError)

variable {σ α ε : Type}

/-- The reply to a request, given what its handler made of it. -/
def Reply.ofResult : Except HandlerError Reply → Reply
  | .ok reply => reply
  | .error _ => { response := .genericError, delivered := [] }

namespace Cycle

/-- A step of reading runs on the intake of a cycle and touches nothing else. -/
theorem run_reading (step : Assembling α) (cycle : Cycle σ) :
    (reading step).run cycle
      = ⟨(step.outcome cycle.intake).1, { cycle with intake := (step.outcome cycle.intake).2 }, []⟩ :=
  rfl

/-- An operation of the store runs on the store of a cycle and touches nothing else. -/
theorem run_storing (action : Action σ ε α) (cycle : Cycle σ) :
    (storing action).run cycle
      = ⟨(action.run cycle.store).result, { cycle with store := (action.run cycle.store).state },
          (action.run cycle.store).notices⟩ :=
  rfl

end Cycle

namespace Relay

variable [RelayStore σ]

/-! ## Serving -/

/-- What reading the body of a request and handling it give and leave. -/
inductive Serving (code : RequestCode) (handler : Handler) (occasion : Occasion)
    (cycle : Cycle σ) : Except HandlerError Reply → Cycle σ → Prop where
  | badBody {cause : ReadError} {intake : Intake}
      (read : (Intake.readBody code).outcome cycle.intake = (.error cause, intake)) :
      Serving code handler occasion cycle (.error (.badBody cause)) { cycle with intake }
  | handled {request : Request} {intake : Intake} {out : Outcome σ HandlerError Reply}
      (read : (Intake.readBody code).outcome cycle.intake = (.ok request, intake))
      (run : (handler.handle occasion request).run cycle.store = out) :
      Serving code handler occasion cycle out.result { cycle with store := out.state, intake }

/-- Serving a request ends in one of these ways. -/
theorem serve_serving (code : RequestCode) (handler : Handler) (occasion : Occasion)
    (cycle : Cycle σ) :
    Serving code handler occasion cycle ((serve code handler occasion).run cycle).result
      ((serve code handler occasion).run cycle).state := by
  unfold serve
  simp only [Action.run_bind, Action.run_mapError, Cycle.run_reading, Cycle.run_storing]
  cases read : (Intake.readBody code).outcome cycle.intake with
  | mk result intake =>
    cases result with
    | error cause => exact .badBody read
    | ok request => exact .handled read rfl

/-! ## Checking the sender -/

/-- A sender that a request may come from, and the store once that is known. -/
inductive Admitted (code : RequestCode) (sender : ClientId) (store : σ) : σ → Prop where
  | newcomer (joins : code = .register) : Admitted code sender store store
  | client {out : Outcome σ StoreError Bool} (serves : code ≠ .register)
      (asked : (RelayStore.hasId sender).run store = out) (known : out.result = .ok true) :
      Admitted code sender store out.state

/-- A sender that a request may not come from, and the store once that is known. -/
inductive TurnedAway (code : RequestCode) (sender : ClientId) (store : σ) :
    DispatchError → σ → Prop where
  | stranger {out : Outcome σ StoreError Bool} (serves : code ≠ .register)
      (asked : (RelayStore.hasId sender).run store = out) (unknown : out.result = .ok false) :
      TurnedAway code sender store (.unknownClient sender) out.state
  | unasked {out : Outcome σ StoreError Bool} {cause : StoreError} (serves : code ≠ .register)
      (asked : (RelayStore.hasId sender).run store = out) (failed : out.result = .error cause) :
      TurnedAway code sender store (.storeFailed cause) out.state

/-- A sender is admitted or turned away, and nothing but the store is touched for it. -/
theorem checkSender_cases (code : RequestCode) (sender : ClientId) (cycle : Cycle σ) :
    (∃ store, Admitted code sender cycle.store store ∧
        ((checkSender code sender).run cycle).result = .ok () ∧
        ((checkSender code sender).run cycle).state = { cycle with store }) ∨
      ∃ cause store, TurnedAway code sender cycle.store cause store ∧
        ((checkSender code sender).run cycle).result = .error cause ∧
        ((checkSender code sender).run cycle).state = { cycle with store } := by
  unfold checkSender
  by_cases joins : code = .register
  · rw [if_neg (not_not_intro joins)]
    exact .inl ⟨cycle.store, .newcomer joins, rfl, rfl⟩
  rw [if_pos joins]
  simp only [Action.run_bind, Action.run_mapError, Cycle.run_storing]
  cases known : ((RelayStore.hasId sender).run cycle.store).result with
  | error cause => exact .inr ⟨_, _, .unasked joins rfl known, rfl, rfl⟩
  | ok known_ =>
    cases known_ with
    | false => exact .inr ⟨_, _, .stranger joins rfl known, rfl, rfl⟩
    | true => exact .inl ⟨_, .client joins rfl known, rfl, rfl⟩

/-- Noting the sender never fails, whatever the store makes of it. -/
theorem run_noteSender (sender : ClientId) (now : Timestamp) (cycle : Cycle σ) :
    ((noteSender sender now).run cycle).result = .ok () ∧
      ((noteSender sender now).run cycle).state
        = { cycle with store := ((RelayStore.updateLastSeen sender now).run cycle.store).state } := by
  unfold noteSender
  simp only [Action.run_bind, Action.run_attempt, Cycle.run_storing]
  cases ((RelayStore.updateLastSeen sender now).run cycle.store).result with
  | ok _ => exact ⟨rfl, rfl⟩
  | error e => exact ⟨rfl, rfl⟩

/-! ## Preparing -/

/-- What becomes of a request until its reply is ready. -/
inductive Preparation (relay : Relay) (circumstances : Circumstances) (cycle : Cycle σ) :
    Except DispatchError Prepared → Cycle σ → Prop where
  | badHeader {cause : ReadError} {intake : Intake}
      (read : Intake.readHeader.outcome cycle.intake = (.error cause, intake)) :
      Preparation relay circumstances cycle (.error (.badHeader cause)) { cycle with intake }
  | unknownCode {header : RequestHeader} {intake : Intake}
      (read : Intake.readHeader.outcome cycle.intake = (.ok header, intake))
      (unserved : ∀ code, RequestCode.ofNumber? header.code = some code →
        relay.router.find? code = none) :
      Preparation relay circumstances cycle (.error (.unknownCode header.code)) { cycle with intake }
  | turnedAway {header : RequestHeader} {intake : Intake} {code : RequestCode}
      {cause : DispatchError} {store : σ}
      (read : Intake.readHeader.outcome cycle.intake = (.ok header, intake))
      (known : RequestCode.ofNumber? header.code = some code)
      (turned : TurnedAway code header.clientId cycle.store cause store) :
      Preparation relay circumstances cycle (.error cause) { cycle with store, intake }
  | ready {header : RequestHeader} {intake : Intake} {code : RequestCode} {handler : Handler}
      {checked : σ} {seen : Outcome σ StoreError Bool} {result : Except HandlerError Reply}
      {served : Cycle σ}
      (read : Intake.readHeader.outcome cycle.intake = (.ok header, intake))
      (known : RequestCode.ofNumber? header.code = some code)
      (routed : relay.router.find? code = some handler)
      (admitted : Admitted code header.clientId cycle.store checked)
      (noted : (RelayStore.updateLastSeen header.clientId circumstances.now).run checked = seen)
      (serving : Serving code handler
        { sender := header.clientId, now := circumstances.now
          candidates := circumstances.candidates }
        { cycle with store := seen.state, intake } result served) :
      Preparation relay circumstances cycle
        (.ok { code, sender := header.clientId, reply := .ofResult result }) served

/-- Preparing a reply ends in one of these ways. -/
theorem prepare_preparation (relay : Relay) (circumstances : Circumstances) (cycle : Cycle σ) :
    Preparation relay circumstances cycle ((relay.prepare circumstances).run cycle).result
      ((relay.prepare circumstances).run cycle).state := by
  unfold prepare
  rw [Action.run_bind, Action.run_mapError]
  cases read : Intake.readHeader.outcome cycle.intake with
  | mk result intake =>
  cases result with
  | error cause =>
    rw [Cycle.run_readingHeader_of_error read]
    exact .badHeader read
  | ok header =>
  rw [Cycle.run_readingHeader_of_ok read]
  simp only [mapError_ok]
  -- one stage of the preparation after the other, each with its own way to stop
  cases known : RequestCode.ofNumber? header.code with
  | none => exact .unknownCode read (by simp [known])
  | some code =>
  simp only
  cases routed : relay.router.find? code with
  | none => exact .unknownCode read (by simpa only [known, Option.some.injEq, forall_eq'])
  | some handler =>
  obtain ⟨checked, admitted, passed, state⟩ | ⟨cause, store, turned, stopped, state⟩ :=
    checkSender_cases code header.clientId { cycle with intake }
  · simp only [Action.run_bind, passed, state]
    obtain ⟨noted, seen⟩ := run_noteSender header.clientId circumstances.now
      { cycle with store := checked, intake }
    simp only [noted, seen]
    have serving := serve_serving code handler
      { sender := header.clientId, now := circumstances.now
        candidates := circumstances.candidates }
      { cycle with
        store := ((RelayStore.updateLastSeen header.clientId circumstances.now).run checked).state
        intake }
    have ready : Preparation relay circumstances cycle _ _ :=
      .ready read known routed admitted rfl serving
    simp only [Action.run_attempt]
    cases served : ((serve code handler
      { sender := header.clientId, now := circumstances.now
        candidates := circumstances.candidates }).run
      { cycle with
        store := ((RelayStore.updateLastSeen header.clientId circumstances.now).run checked).state
        intake }).result with
    | error e =>
      rw [served] at ready
      exact ready
    | ok reply =>
      rw [served] at ready
      exact ready
  · simp only [Action.run_bind, stopped, state]
    exact .turnedAway read known turned

/-- Nothing goes out while a reply is prepared. -/
theorem outbox_prepare (relay : Relay) (circumstances : Circumstances) (cycle : Cycle σ) :
    ((relay.prepare circumstances).run cycle).state.outbox = cycle.outbox := by
  have preparation := prepare_preparation relay circumstances cycle
  generalize ((relay.prepare circumstances).run cycle).result = result at preparation
  generalize ((relay.prepare circumstances).run cycle).state = prepared at preparation ⊢
  cases preparation with
  | badHeader => rfl
  | unknownCode => rfl
  | turnedAway => rfl
  | ready read known routed admitted noted serving =>
    cases serving with
    | badBody => rfl
    | handled => rfl

/-- Preparing a reply fails for no reason that has to do with sending. -/
theorem prepare_ne_notSent {relay : Relay} {circumstances : Circumstances} {cycle : Cycle σ}
    {cause : SendError} :
    ((relay.prepare circumstances).run cycle).result ≠ .error (.notSent cause) := by
  have preparation := prepare_preparation relay circumstances cycle
  generalize ((relay.prepare circumstances).run cycle).state = prepared at preparation
  intro failed
  rw [failed] at preparation
  cases preparation with
  | turnedAway _ _ turned => cases turned

end Relay

end MessageRelay.Service
