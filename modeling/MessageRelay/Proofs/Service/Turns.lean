import MessageRelay.Proofs.Service.Delivery
import MessageRelay.Proofs.Service.OneResponse
import MessageRelay.Proofs.Service.ReadRequest
import MessageRelay.Service.Multiplexer

/-!
# Connections take turns

Whatever the order in which connections are accepted, become ready and are closed, the relay serves
them as if each had been served alone, one after the other, in the order in which they became ready
(`run_eq_serveInTurn`). A connection on which nothing arrives gets no answer and leaves no trace
(`dispatchOn_of_nothing`), so that a history without it comes out the same
(`connections_served_in_turn`).
-/

set_option autoImplicit false

namespace MessageRelay.Connection

open Protocol

/-- The header of a request is read off the front of what arrives. -/
theorem Intake.decode_of_readHeader {packetSize : Nat} {incoming : Incoming}
    {header : RequestHeader} {intake' : Intake}
    (h : readHeader.outcome (start packetSize incoming) = (.ok header, intake')) :
    ∃ bytes rest, incoming.remaining = bytes ++ rest ∧ RequestHeader.decode bytes = .ok header := by
  obtain ⟨bytes, rest, read, decoded⟩ := read_of_readHeader h
  exact ⟨bytes, rest.remaining, Incoming.remaining_of_read read, decoded⟩

end MessageRelay.Connection

namespace MessageRelay.Service

open Connection
open Protocol
open Store (RelayStore)

/-! ## Nothing arrives -/

/-- A connection on which nothing arrives gets no answer, and the store does not notice it. -/
theorem Relay.dispatchOn_of_nothing {σ : Type} [RelayStore σ] (relay : Relay)
    (circumstances : Circumstances) (peer : Peer) {incoming : Incoming}
    (h : incoming.remaining = []) (store : σ) :
    (∃ cause, (relay.dispatchOn circumstances peer incoming store).result
        = .error (.badHeader cause)) ∧
      (relay.dispatchOn circumstances peer incoming store).state.store = store ∧
      (relay.dispatchOn circumstances peer incoming store).state.outbox = .empty := by
  have unread : ∀ {header : RequestHeader} {intake : Intake},
      Intake.readHeader.outcome (Intake.start relay.packetSize incoming)
        ≠ (.ok header, intake) := by
    intro header intake read
    obtain ⟨bytes, rest, parts, decoded⟩ := Intake.decode_of_readHeader read
    rw [h] at parts
    obtain ⟨rfl, -⟩ := List.append_eq_nil_iff.1 parts.symm
    cases decoded
  exact relay.dispatchOn_of_no_header circumstances peer unread store

/-! ## Turns -/

/-- A connection that is served, with what is found on it. -/
structure Turn (κ : Type) extends Visit where
  connection : κ

variable {σ κ : Type}

/-- The connection that an event is about. -/
def NetworkEvent.connection? : NetworkEvent κ → Option κ
  | .accepted connection => some connection
  | .ready connection _ _ _ => some connection
  | .shutdown => none

/-- The arrival of a connection is about this connection. -/
@[simp] theorem NetworkEvent.connection?_accepted (connection : κ) :
    (NetworkEvent.accepted connection).connection? = some connection := rfl

/-- The readiness of a connection is about this connection. -/
@[simp] theorem NetworkEvent.connection?_ready (connection : κ) (circumstances : Circumstances)
    (peer : Peer) (incoming : Incoming) :
    (NetworkEvent.ready connection circumstances peer incoming).connection?
      = some connection := rfl

/-- The shutdown is about no connection. -/
@[simp] theorem NetworkEvent.connection?_shutdown :
    (NetworkEvent.shutdown : NetworkEvent κ).connection? = none := rfl

variable [DecidableEq κ]

/-- The turns that come of events while some connections wait: a connection has its turn when it is
ready, and does not wait any longer. -/
def turnsAmong (waiting : List κ) : List (NetworkEvent κ) → List (Turn κ)
  | [] => []
  | .accepted connection :: events => turnsAmong (waiting ++ [connection]) events
  | .ready connection circumstances peer incoming :: events =>
    if connection ∈ waiting then
      { connection, circumstances, incoming, peer } :: turnsAmong (waiting.erase connection) events
    else turnsAmong waiting events
  | .shutdown :: _ => []

/-- The store after turns that were taken one after the other, and what came of each. -/
def serveInTurn [RelayStore σ] (relay : Relay) : List (Turn κ) → σ → σ × List (Served κ)
  | [], store => (store, [])
  | turn :: turns, store =>
    let out := relay.dispatchOn turn.circumstances turn.peer turn.incoming store
    let later := serveInTurn relay turns out.state.store
    (later.1, ⟨turn.connection, out.result, out.state.outbox⟩ :: later.2)

/-- How often a connection is accepted. -/
def timesAccepted (connection : κ) (events : List (NetworkEvent κ)) : Nat :=
  events.countP fun
    | .accepted other => other = connection
    | _ => false

/-- A connection has no more turns than it waited and was accepted. -/
theorem count_turnsAmong_le (connection : κ) (events : List (NetworkEvent κ)) (waiting : List κ) :
    ((turnsAmong waiting events).map (·.connection)).count connection
      ≤ waiting.count connection + timesAccepted connection events := by
  induction events generalizing waiting with
  | nil => simp [turnsAmong]
  | cons event events ih =>
    cases event with
    | accepted other =>
      refine Nat.le_trans (ih _) ?_
      rw [timesAccepted, timesAccepted, List.countP_cons, List.count_append, List.count_singleton]
      simp only [beq_iff_eq, decide_eq_true_eq]
      omega
    | ready other circumstances peer incoming =>
      have same : timesAccepted connection (.ready other circumstances peer incoming :: events)
          = timesAccepted connection events := by
        simp [timesAccepted]
      rw [turnsAmong, same]
      -- a turn uses up one of the places among those that wait
      split
      · rename_i waits
        have erased := ih (waiting.erase other)
        rw [List.count_erase] at erased
        rw [List.map_cons, List.count_cons]
        by_cases hc : other = connection
        · subst hc
          have one := List.count_pos_iff.2 waits
          simp only [beq_self_eq_true, if_true] at erased ⊢
          omega
        · simp only [beq_iff_eq, hc, if_false] at erased ⊢
          omega
      · exact ih waiting
    | shutdown => simp [turnsAmong]

/-- Leaving out a connection takes away its turns and no others. -/
theorem turnsAmong_without (connection : κ) (events : List (NetworkEvent κ)) (waiting : List κ) :
    turnsAmong (waiting.filter (· ≠ connection))
        (events.filter (·.connection? ≠ some connection))
      = (turnsAmong waiting events).filter (·.connection ≠ connection) := by
  induction events generalizing waiting with
  | nil => rfl
  | cons event events ih =>
    cases event with
    | accepted other =>
      rw [turnsAmong, ← ih, List.filter_cons, List.filter_append]
      by_cases hc : other = connection
      · simp [hc]
      · simp [hc, turnsAmong]
    | ready other circumstances peer incoming =>
      by_cases hc : other = connection
      · subst hc
        -- the turn is left out on both sides; what is left of the waiting is filtered alike
        have absent : other ∉ waiting.filter (· ≠ other) := by simp
        have erased := ih (waiting.erase other)
        rw [← List.erase_filter, List.erase_of_not_mem absent] at erased
        simp only [List.filter_cons, NetworkEvent.connection?_ready, ne_eq, not_true_eq_false,
          decide_false, Bool.false_eq_true, if_false, turnsAmong]
        split
        · simpa using erased
        · simpa using ih waiting
      · have kept : other ∈ waiting.filter (· ≠ connection) ↔ other ∈ waiting := by simp [hc]
        have erased := ih (waiting.erase other)
        rw [← List.erase_filter] at erased
        simp only [List.filter_cons, NetworkEvent.connection?_ready, ne_eq, Option.some.injEq, hc,
          not_false_eq_true, decide_true, if_true, turnsAmong]
        by_cases waits : other ∈ waiting
        · rw [if_pos waits, if_pos (kept.2 waits)]
          simpa [hc] using erased
        · rw [if_neg waits, if_neg fun still => waits (kept.1 still)]
          exact ih waiting
    | shutdown => simp [turnsAmong]

omit [DecidableEq κ] in
/-- Serving in turn serves the connections of the turns, in their order. -/
theorem map_connection_serveInTurn [RelayStore σ] (relay : Relay) (turns : List (Turn κ))
    (store : σ) :
    (serveInTurn relay turns store).2.map (·.connection) = turns.map (·.connection) := by
  induction turns generalizing store with
  | nil => rfl
  | cons turn turns ih => simp only [serveInTurn, List.map_cons, ih]

/-- A turn is given by an event of its connection that is ready. -/
theorem ready_mem_of_mem_turnsAmong {turn : Turn κ} {events : List (NetworkEvent κ)}
    {waiting : List κ} (h : turn ∈ turnsAmong waiting events) :
    .ready turn.connection turn.circumstances turn.peer turn.incoming ∈ events := by
  induction events generalizing waiting with
  | nil => cases h
  | cons event events ih =>
    cases event with
    | accepted other => exact List.mem_cons_of_mem _ (ih h)
    | ready other circumstances peer incoming =>
      rw [turnsAmong] at h
      split at h
      · obtain rfl | h := List.mem_cons.1 h
        · exact List.mem_cons_self
        · exact List.mem_cons_of_mem _ (ih h)
      · exact List.mem_cons_of_mem _ (ih h)
    | shutdown => cases h

/-- Turns in which nothing arrives on one connection come to the same without that connection. -/
theorem serveInTurn_without [RelayStore σ] (relay : Relay) (connection : κ)
    (turns : List (Turn κ))
    (silent : ∀ turn ∈ turns, turn.connection = connection → turn.incoming.remaining = [])
    (store : σ) :
    serveInTurn relay (turns.filter (·.connection ≠ connection)) store
      = ((serveInTurn relay turns store).1,
          (serveInTurn relay turns store).2.filter (·.connection ≠ connection)) := by
  induction turns generalizing store with
  | nil => rfl
  | cons turn turns ih =>
    have later := ih fun other ho => silent other (List.mem_cons_of_mem turn ho)
    by_cases hc : turn.connection = connection
    · obtain ⟨-, same, -⟩ := relay.dispatchOn_of_nothing turn.circumstances turn.peer
        (silent turn List.mem_cons_self hc) store
      simp only [serveInTurn, same]
      simpa [hc] using later store
    · simp [serveInTurn, hc] at later ⊢
      simp [later]

omit [DecidableEq κ] in
/-- Nothing goes out in a turn in which nothing arrives. -/
theorem silent_of_mem_serveInTurn [RelayStore σ] {relay : Relay} {connection : κ}
    {turns : List (Turn κ)}
    (silent : ∀ turn ∈ turns, turn.connection = connection → turn.incoming.remaining = [])
    {store : σ} {served : Served κ} (h : served ∈ (serveInTurn relay turns store).2)
    (hc : served.connection = connection) :
    served.outbox = .empty ∧ ∃ cause, served.result = .error (.badHeader cause) := by
  induction turns generalizing store with
  | nil => cases h
  | cons turn turns ih =>
    obtain rfl | h := List.mem_cons.1 h
    · obtain ⟨failed, -, nothing⟩ := relay.dispatchOn_of_nothing turn.circumstances turn.peer
        (silent turn List.mem_cons_self hc) store
      exact ⟨nothing, failed⟩
    · exact ih (fun other ho => silent other (List.mem_cons_of_mem turn ho)) h

/-! ## Runs -/

namespace Multiplexer

variable [RelayStore σ] {relay : Relay} {name : κ → String} {multiplexer : Multiplexer σ κ}

/-- The run goes on from where the first event leads. -/
theorem run_cons (event : NetworkEvent κ) (events : List (NetworkEvent κ)) :
    run relay name (event :: events) multiplexer
      = run relay name events (step relay name multiplexer event).1 := rfl

/-- A connection that arrives waits. -/
theorem step_accepted (running : multiplexer.stopped = false) (connection : κ) :
    (step relay name multiplexer (.accepted connection)).1
      = { multiplexer with waiting := multiplexer.waiting ++ [connection] } := by
  simp [step, running]

/-- A connection that waits and is ready is served to its end, and waits no more. -/
theorem step_ready (relay : Relay) (name : κ → String) (running : multiplexer.stopped = false)
    {connection : κ} (waits : connection ∈ multiplexer.waiting) (circumstances : Circumstances)
    (peer : Peer) (incoming : Incoming) :
    let out := relay.dispatchOn circumstances peer incoming multiplexer.store
    (step relay name multiplexer (.ready connection circumstances peer incoming)).1
      = { multiplexer with
          store := out.state.store
          waiting := multiplexer.waiting.erase connection
          served := multiplexer.served ++ [⟨connection, out.result, out.state.outbox⟩] } := by
  simp [step, running, waits]

/-- The readiness of a connection that does not wait changes nothing. -/
theorem step_ready_of_not_mem {connection : κ} (h : connection ∉ multiplexer.waiting)
    (circumstances : Circumstances) (peer : Peer) (incoming : Incoming) :
    (step relay name multiplexer (.ready connection circumstances peer incoming)).1
      = multiplexer := by
  simp [step, h]

/-- A shutdown stops the loop. -/
theorem step_shutdown (running : multiplexer.stopped = false) :
    (step relay name multiplexer .shutdown).1 = { multiplexer with stopped := true } := by
  simp [step, running]

/-- Nothing happens once the loop has stopped. -/
theorem run_of_stopped (stopped : multiplexer.stopped = true) (events : List (NetworkEvent κ)) :
    run relay name events multiplexer = multiplexer := by
  induction events with
  | nil => rfl
  | cons event events ih =>
    have still : (step relay name multiplexer event).1 = multiplexer := by
      cases event <;> simp [step, stopped]
    rw [run_cons, still]
    exact ih

/-- The relay serves connections as if each was served alone, in the order in which they became
ready. -/
theorem run_eq_serveInTurn (relay : Relay) (name : κ → String) (events : List (NetworkEvent κ))
    (running : multiplexer.stopped = false) :
    let inTurn := serveInTurn relay (turnsAmong multiplexer.waiting events) multiplexer.store
    (run relay name events multiplexer).store = inTurn.1 ∧
      (run relay name events multiplexer).served = multiplexer.served ++ inTurn.2 := by
  induction events generalizing multiplexer with
  | nil => exact ⟨rfl, (List.append_nil _).symm⟩
  | cons event events ih =>
    rw [run_cons]
    cases event with
    | accepted connection =>
      rw [step_accepted running, turnsAmong]
      exact ih running
    | ready connection circumstances peer incoming =>
      by_cases waits : connection ∈ multiplexer.waiting
      · have stepped := step_ready relay name running waits circumstances peer
          incoming
        have still : (step relay name multiplexer
            (.ready connection circumstances peer incoming)).1.stopped = false := by
          rw [stepped]
          exact running
        have later := ih still
        rw [stepped] at later ⊢
        rw [turnsAmong, if_pos waits]
        exact ⟨later.1, later.2.trans (List.append_assoc _ _ _)⟩
      · rw [step_ready_of_not_mem waits, turnsAmong, if_neg waits]
        exact ih running
    | shutdown =>
      rw [step_shutdown running, run_of_stopped rfl]
      exact ⟨rfl, (List.append_nil _).symm⟩

end Multiplexer

/-! ## Histories -/

/-- What happens at the relay and on the other sides of its connections. -/
inductive Occurrence (κ : Type) where
  /-- The relay notices something. -/
  | noticed (event : NetworkEvent κ)
  /-- The other side of a connection sends bytes. -/
  | sent (connection : κ) (bytes : Bytes)
  /-- The other side of a connection closes it. -/
  | closed (connection : κ)

/-- What the relay notices of a history. -/
def noticedIn (history : List (Occurrence κ)) : List (NetworkEvent κ) :=
  history.filterMap fun
    | .noticed event => some event
    | _ => none

/-- The bytes that the other side of a connection sends in a history. -/
def sentOn (connection : κ) (history : List (Occurrence κ)) : Bytes :=
  history.flatMap fun
    | .sent other bytes => if other = connection then bytes else []
    | _ => []

/-- A connection becomes ready only once a byte was sent on it or it was closed, and only what is
sent on it arrives. -/
structure Timely (history : List (Occurrence κ)) : Prop where
  awaited : ∀ i connection circumstances peer incoming,
    history[i]? = some (.noticed (.ready connection circumstances peer incoming)) →
    sentOn connection (history.take i) ≠ [] ∨ .closed connection ∈ history.take i
  brought : ∀ connection circumstances peer incoming,
    .noticed (.ready connection circumstances peer incoming) ∈ history →
    incoming.remaining <+: sentOn connection history

omit [DecidableEq κ] in
/-- What the loop notices is noticed in the history. -/
theorem mem_of_mem_noticedIn {event : NetworkEvent κ} {history : List (Occurrence κ)}
    (h : event ∈ noticedIn history) : .noticed event ∈ history := by
  obtain ⟨occurrence, listed, noticed⟩ := List.mem_filterMap.1 h
  cases occurrence with
  | noticed other =>
    cases noticed
    exact listed
  | sent => cases noticed
  | closed => cases noticed

/-- Nothing was sent on a connection before a moment at which nothing was. -/
theorem sentOn_take_eq_nil {connection : κ} {history : List (Occurrence κ)} {i n : Nat}
    (h : sentOn connection (history.take n) = []) (hi : i ≤ n) :
    sentOn connection (history.take i) = [] := by
  have front : history.take i <+: history.take n := List.take_prefix_take_left hi
  obtain ⟨rest, parts⟩ := front
  rw [← parts, sentOn, List.flatMap_append] at h
  exact (List.append_eq_nil_iff.1 h).1

variable [RelayStore σ]

/-- The relay after a history. -/
def Multiplexer.after (relay : Relay) (name : κ → String) (store : σ)
    (events : List (NetworkEvent κ)) : Multiplexer σ κ :=
  run relay name events (.start store)

/-- A run of the loop serves the turns among its events, one after the other. -/
theorem Multiplexer.after_eq_serveInTurn (relay : Relay) (name : κ → String) (store : σ)
    (events : List (NetworkEvent κ)) :
    ((Multiplexer.after relay name store events).store,
        (Multiplexer.after relay name store events).served)
      = serveInTurn relay (turnsAmong [] events) store := by
  obtain ⟨left, served⟩ := run_eq_serveInTurn relay name events
    (show (Multiplexer.start store).stopped = false from rfl)
  rw [Multiplexer.after, left, served]
  rfl

/-- A connection that nothing was sent on and that is still open has not been served. -/
theorem Multiplexer.ne_of_mem_served (relay : Relay) (name : κ → String) (store : σ)
    {history : List (Occurrence κ)} (timely : Timely history) {n : Nat} {connection : κ}
    (idle : sentOn connection (history.take n) = [])
    (opened : .closed connection ∉ history.take n) {served : Served κ}
    (h : served ∈ (Multiplexer.after relay name store (noticedIn (history.take n))).served) :
    served.connection ≠ connection := by
  rintro rfl
  have inTurn := congrArg Prod.snd
    (Multiplexer.after_eq_serveInTurn relay name store (noticedIn (history.take n)))
  simp only at inTurn
  have listed := List.mem_map_of_mem (f := Served.connection) h
  rw [inTurn, map_connection_serveInTurn] at listed
  obtain ⟨turn, took, same⟩ := List.mem_map.1 listed
  -- it was served because it was ready, which was noticed before the moment in question
  have noticed := mem_of_mem_noticedIn (ready_mem_of_mem_turnsAmong took)
  obtain ⟨i, found⟩ := List.mem_iff_getElem?.1 noticed
  have early : i < n := by
    have bound := (List.getElem?_eq_some_iff.1 found).1
    rw [List.length_take] at bound
    omega
  rw [List.getElem?_take_of_lt early] at found
  have awaited := timely.awaited i _ _ _ _ found
  rw [same] at awaited
  obtain sent | closed := awaited
  · exact sent (sentOn_take_eq_nil idle (Nat.le_of_lt early))
  · exact opened ((List.take_prefix_take_left (Nat.le_of_lt early)).subset closed)

/-- Connections are served one after the other, each at most once, as if each was served alone in
the order in which they became ready. One that nothing was sent on is not served while it is open;
served after it was closed, it gets no answer, and all else is as if it had never come. -/
theorem connections_served_in_turn (relay : Relay) (name : κ → String) (store : σ)
    (history : List (Occurrence κ)) (timely : Timely history) :
    let events := noticedIn history
    let final := Multiplexer.after relay name store events
    (∀ connection, (final.served.map (·.connection)).count connection
        ≤ timesAccepted connection events) ∧
      (final.store, final.served) = serveInTurn relay (turnsAmong [] events) store ∧
      (∀ n connection, sentOn connection (history.take n) = [] →
        .closed connection ∉ history.take n →
        ∀ served ∈ (Multiplexer.after relay name store (noticedIn (history.take n))).served,
          served.connection ≠ connection) ∧
      ∀ connection, sentOn connection history = [] →
        (∀ served ∈ final.served, served.connection = connection →
          served.outbox = .empty ∧ ∃ cause, served.result = .error (.badHeader cause)) ∧
        (∀ turn ∈ turnsAmong [] events, turn.connection = connection → ∀ before : σ,
          (relay.dispatchOn turn.circumstances turn.peer turn.incoming before).state.store
            = before) ∧
        (Multiplexer.after relay name store
            (events.filter (·.connection? ≠ some connection))).store = final.store ∧
        (Multiplexer.after relay name store
            (events.filter (·.connection? ≠ some connection))).served
          = final.served.filter (·.connection ≠ connection) := by
  intro events final
  have inTurn : (final.store, final.served) = serveInTurn relay (turnsAmong [] events) store :=
    Multiplexer.after_eq_serveInTurn relay name store events
  have servedInTurn := congrArg Prod.snd inTurn
  simp only at servedInTurn
  refine ⟨?_, inTurn, ?_, ?_⟩
  · intro connection
    rw [servedInTurn, map_connection_serveInTurn]
    have bound := count_turnsAmong_le connection events []
    rwa [List.count_nil, Nat.zero_add] at bound
  · intro n connection idle opened served
    exact Multiplexer.ne_of_mem_served relay name store timely idle opened
  · intro connection idle
    -- what arrives was sent, and nothing was sent here
    have silent : ∀ turn ∈ turnsAmong [] events, turn.connection = connection →
        turn.incoming.remaining = [] := by
      rintro turn took rfl
      have brought := timely.brought _ _ _ _
        (mem_of_mem_noticedIn (ready_mem_of_mem_turnsAmong took))
      rw [idle] at brought
      exact List.prefix_nil.1 brought
    have without := Multiplexer.after_eq_serveInTurn relay name store
      (events.filter (·.connection? ≠ some connection))
    have fewer := turnsAmong_without connection events []
    rw [List.filter_nil] at fewer
    rw [fewer, serveInTurn_without relay connection _ silent, ← inTurn, Prod.mk.injEq] at without
    refine ⟨?_, ?_, without⟩
    · intro served h
      rw [servedInTurn] at h
      exact silent_of_mem_serveInTurn silent h
    · intro turn took same before
      exact (relay.dispatchOn_of_nothing _ _ (silent turn took same) before).2.1

/-- A client registers while another connection is opened and closed in silence. -/
def registrationBesideIdle : List (Occurrence Nat) :=
  let talk := Visit.ofRequest .unregistered (.register "a" (List.replicate publicKeySize 7))
  [.noticed (.accepted 1), .noticed (.accepted 2), .closed 1, .sent 2 talk.incoming.remaining,
    .noticed (.ready 1 talk.circumstances talk.peer []),
    .noticed (.ready 2 talk.circumstances talk.peer talk.incoming), .noticed .shutdown]

/-- In this history a connection becomes ready only once something was sent on it. -/
theorem timely_registrationBesideIdle : Timely registrationBesideIdle where
  awaited := by
    intro i connection circumstances peer incoming h
    rcases i with _ | _ | _ | _ | _ | _ | _ | i <;> simp [registrationBesideIdle] at h ⊢
    · simp [h.1]
    · obtain ⟨rfl, -⟩ := h
      left
      decide +kernel
  brought := by
    intro connection circumstances peer incoming h
    simp only [registrationBesideIdle, List.mem_cons, Occurrence.noticed.injEq, reduceCtorEq,
      NetworkEvent.ready.injEq, List.not_mem_nil, false_or, or_false] at h
    obtain ⟨rfl, -, -, rfl⟩ | ⟨rfl, -, -, rfl⟩ := h
    · exact List.nil_prefix
    · decide +kernel

/-- The connection that was silent is served first, and nothing would be different without it. -/
theorem connections_served_in_turn_idle :
    let events := noticedIn registrationBesideIdle
    let final := Multiplexer.after .standard toString Store.Volatile.empty events
    let without := Multiplexer.after .standard toString Store.Volatile.empty
      (events.filter (·.connection? ≠ some 1))
    Timely registrationBesideIdle ∧ sentOn 1 registrationBesideIdle = [] ∧
      final.served.map (·.connection) = [1, 2] ∧ without.store = final.store ∧
      without.served = final.served.filter (·.connection ≠ 1) := by
  intro events final without
  have idle : sentOn 1 registrationBesideIdle = [] := by decide +kernel
  obtain ⟨-, -, -, silent⟩ := connections_served_in_turn .standard toString Store.Volatile.empty
    registrationBesideIdle timely_registrationBesideIdle
  obtain ⟨-, -, same, others⟩ := silent 1 idle
  exact ⟨timely_registrationBesideIdle, idle, by decide +kernel, same, others⟩

end MessageRelay.Service
