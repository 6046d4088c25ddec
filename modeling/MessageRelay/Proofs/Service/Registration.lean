import MessageRelay.Proofs.Service.ReadRequest
import MessageRelay.Proofs.Service.Refusal
import MessageRelay.Proofs.Store.Roll

/-!
# Registrations last

A run is a sequence of connections and restarts. Beside the store runs the roll of those who were
told an identifier, each with the name and the key that the request brought. The clients of the store
are those on the roll, in every run (`Registry.enrols_after`): a connection adds to both at once or
to neither. So whoever is on the roll keeps the identifier, the name and the key, which no other
registration can take over, and is found by that name alone (`registrations_permanent`).
-/

set_option autoImplicit false

namespace MessageRelay.Service

open Connection
open Protocol
open Store (Backend DataFolder Directory Durable Registration)

variable {packetSize : Nat} {visit : Visit} {sender : ClientId} {store : Backend}
  {roll : List Registration}

/-- What becomes of a connection. -/
def Visit.outcome (packetSize : Nat) (visit : Visit) (store : Backend) :
    Outcome (Cycle Backend) DispatchError ResponseCode :=
  (Relay.ofPacketSize packetSize).dispatchOn visit.circumstances visit.peer visit.incoming store

/-- What is ready to be sent on a connection. -/
def Visit.ready (packetSize : Nat) (visit : Visit) (store : Backend) :
    Outcome (Cycle Backend) DispatchError Prepared :=
  ((Relay.ofPacketSize packetSize).prepare visit.circumstances).run (visit.begin packetSize store)

/-- The registration that a connection brings about. -/
def Visit.registered (packetSize : Nat) (visit : Visit) (store : Backend) : List Registration :=
  match visit.request? packetSize, (visit.ready packetSize store).result with
  | some (_, .register name key), .ok prepared =>
    match prepared.reply.response with
    | .registered id => [⟨id, name, key⟩]
    | _ => []
  | _, _ => []

/-- A connection on which one response goes out: the whole of it, or its front if a write or the
flush fails. -/
def Visit.AnsweredWith (packetSize : Nat) (visit : Visit) (store : Backend) (response : Response) :
    Prop :=
  Answered packetSize visit.peer response (visit.outcome packetSize store).result
    (visit.outcome packetSize store).state.outbox

/-! ## What a connection does to the roll -/

/-- A connection that is not answered with a registration registers no client. -/
theorem Visit.registered_eq_nil
    (others : ∀ prepared id, (visit.ready packetSize store).result = .ok prepared →
      prepared.reply.response ≠ .registered id) : visit.registered packetSize store = [] := by
  unfold registered
  split
  · rename_i prepared _ ready
    split
    · rename_i id told
      exact absurd told (others prepared id ready)
    · rfl
  · rfl

/-- A registration that is answered as one registers the client that was asked for. -/
theorem Visit.registered_eq {name : String} {key : Bytes} {prepared : Prepared} {id : ClientId}
    (asked : visit.request? packetSize = some (sender, .register name key))
    (ready : (visit.ready packetSize store).result = .ok prepared)
    (told : prepared.reply.response = .registered id) :
    visit.registered packetSize store = [⟨id, name, key⟩] := by
  simp only [registered, asked, ready, told]

/-- Removing what was delivered leaves the roll as it is. -/
theorem enrols_removeDelivered (client : ClientId) (now : Timestamp) (ids : List UInt32)
    {cycle : Cycle Backend} (enrols : cycle.store.Enrols roll) :
    ((Relay.removeDelivered client ids).run cycle).state.store.Enrols roll := by
  induction ids generalizing cycle with
  | nil => exact enrols
  | cons id ids ih =>
    rw [(run_removeDelivered_cons client id ids cycle).2]
    obtain ⟨next, sound⟩ := enrols.sound
    exact ih (enrols.of_directory (sound.deleteMessage id now)
      (Backend.directory_deleteMessage now id cycle.store))

/-- Finishing with a reply leaves the roll as it is. -/
theorem enrols_finish {relay : Relay} {peer : Peer} {prepared : Prepared} (now : Timestamp)
    {cycle : Cycle Backend} (enrols : cycle.store.Enrols roll) :
    ((relay.finish peer prepared).run cycle).state.store.Enrols roll := by
  cases sent : (Outbox.send peer relay.packetSize prepared.reply.response cycle.outbox).1 with
  | error e =>
    rw [store_finish_of_not_sent sent]
    exact enrols
  | ok n =>
    rw [state_finish_of_sent sent]
    apply enrols_removeDelivered prepared.sender now
    rw [store_answer]
    exact enrols

/-- A handler adds to the roll what it tells the sender, and nothing else. -/
theorem enrols_handling {handler : Handler} {occasion : Occasion} {store store' : Backend}
    {request : Request} {result : Except HandlerError Reply}
    (handling : Handler.Handling handler occasion store request result store')
    (enrols : store.Enrols roll) :
    (store'.Enrols roll ∧ ∀ id, (Reply.ofResult result).response ≠ .registered id) ∨
      ∃ name key id, request = .register name key ∧
        (Reply.ofResult result).response = .registered id ∧
        store'.Enrols (roll ++ [⟨id, name, key⟩]) := by
  cases handling with
  | registering own registering =>
    rename_i name key
    cases registering with
    | nameTaken | noFreshId => exact .inl ⟨enrols, by simp [Reply.ofResult]⟩
    | failed free fresh failed =>
      refine .inl ⟨?_, by simp [Reply.ofResult]⟩
      cases failed with
      | refused => exact enrols
      | unwritten fault spared => exact enrols.spared spared
    | registered free fresh enrolled =>
      exact .inr ⟨name, key, _, rfl, rfl, enrols.enrolled enrolled⟩
  | leaving leaving =>
    left
    cases leaving with
    | refused spared => exact ⟨enrols.spared spared, by simp [Reply.ofResult]⟩
    | taken directory sound =>
      obtain ⟨next, sound'⟩ := enrols.sound
      exact ⟨enrols.of_directory (sound next sound') directory, by simp [Reply.ofResult]⟩
  | asking others =>
    refine .inl ⟨enrols, fun id => ?_⟩
    cases result with
    | error e => simp [Reply.ofResult]
    | ok reply => exact others reply id rfl

/-- Until its reply is ready a connection adds to the store what it adds to the roll. -/
theorem enrols_ready (enrols : store.Enrols roll) :
    (visit.ready packetSize store).state.store.Enrols
      (roll ++ visit.registered packetSize store) := by
  cases result : (visit.ready packetSize store).result with
  | error cause =>
    have none : visit.registered packetSize store = [] :=
      Visit.registered_eq_nil (by simp [result])
    rw [none, List.append_nil, Visit.ready, Relay.store_of_unready result]
    exact enrols
  | ok prepared =>
    have preparation : Relay.Preparation (Relay.ofPacketSize packetSize) visit.circumstances
        (visit.begin packetSize store) (.ok prepared) (visit.ready packetSize store).state := by
      rw [← result]
      exact Relay.prepare_preparation _ _ _
    generalize (visit.ready packetSize store).state = left_ at preparation ⊢
    -- a reply is ready only for a sender that was admitted and noted, which the roll outlasts
    cases preparation with
    | @ready header intake code handler checked seen _ _ read known routed admitted noted serving =>
      have sighting := admitted.sighting visit.circumstances.now
      rw [noted] at sighting
      have still : seen.state.Enrols roll := enrols.sighting sighting
      cases serving with
      | badBody read' =>
        have none : visit.registered packetSize store = [] := by
          apply Visit.registered_eq_nil
          intro prepared id ready
          cases result.symm.trans ready
          simp [Reply.ofResult]
        rw [none, List.append_nil]
        exact still
      | @handled request _ out read' run =>
        have handling := Handler.handle_handling handler (visit.occasion header.clientId) request
          seen.state
        rw [show (handler.handle (visit.occasion header.clientId) request).run seen.state = out
          from run] at handling
        obtain ⟨same, others⟩ | ⟨name, key, id, rfl, told, enrolled⟩ :=
          enrols_handling handling still
        · have none : visit.registered packetSize store = [] := by
            apply Visit.registered_eq_nil
            intro prepared id ready
            cases result.symm.trans ready
            exact others id
          rw [none, List.append_nil]
          exact same
        -- the client that was taken in is the one that was asked for
        · obtain ⟨bytes, decoded⟩ := Intake.decodeBody_of_readBody (congrArg Prod.fst read')
          obtain rfl := Request.code_of_decodeBody decoded
          have asked : visit.request? packetSize = some (header.clientId, .register name key) :=
            Visit.request?_eq_some_iff.2 ⟨header, _, read, rfl, known, congrArg Prod.fst read'⟩
          rw [Visit.registered_eq asked result told]
          exact enrolled

/-- A connection adds to the store what it adds to the roll. -/
theorem enrols_outcome (enrols : store.Enrols roll) :
    (visit.outcome packetSize store).state.store.Enrols
      (roll ++ visit.registered packetSize store) := by
  have ready : (visit.ready packetSize store).state.store.Enrols _ := enrols_ready enrols
  show (((Relay.ofPacketSize packetSize).dispatch visit.circumstances visit.peer).run
    (visit.begin packetSize store)).state.store.Enrols _
  rw [Relay.dispatch, Action.run_bind]
  cases result : (visit.ready packetSize store).result with
  | error cause =>
    rw [show (((Relay.ofPacketSize packetSize).prepare visit.circumstances).run
      (visit.begin packetSize store)).result = _ from result]
    exact ready
  | ok prepared =>
    rw [show (((Relay.ofPacketSize packetSize).prepare visit.circumstances).run
      (visit.begin packetSize store)).result = _ from result]
    exact enrols_finish visit.circumstances.now ready

/-! ## What a connection is answered -/

/-- A request that is read and may come from its sender is answered by its handler, over a store with
the same roll. -/
theorem answeredWith_of_request {request : Request} (enrols : store.Enrols roll)
    (asked : visit.request? packetSize = some (sender, request))
    (admitted : request.code = .register ∨ ∃ caller ∈ roll, caller.id = sender) :
    ∃ (noted : Backend) (reply : Reply), noted.Enrols roll ∧
      noted.snapshotFaults <:+ store.snapshotFaults ∧
      Reply.ofResult ((Handler.handle request.code (visit.occasion sender) request).run
        noted).result = reply ∧
      (∃ prepared, (visit.ready packetSize store).result = .ok prepared ∧
        prepared.reply = reply) ∧
      visit.AnsweredWith packetSize store reply.outgoing := by
  have admitted' : request.code = .register ∨ store.directory.hasId sender = true :=
    admitted.imp_right (enrols.hasId_iff sender).2
  obtain ⟨noted, sighting, ready⟩ := prepare_of_request asked admitted'
  exact ⟨noted, _, enrols.sighting sighting, sighting.plan, rfl, ⟨_, ready, rfl⟩,
    Relay.dispatch_answered visit.peer rfl ready⟩

/-- A registration under a name on the roll is refused. -/
theorem refused_of_name {name : String} {key : Bytes} (enrols : store.Enrols roll)
    (asked : visit.request? packetSize = some (sender, .register name key))
    (taken : ∃ entry ∈ roll, entry.name = name) :
    visit.AnsweredWith packetSize store .genericError ∧ visit.registered packetSize store = [] := by
  obtain ⟨noted, reply, enrols', -, handled, ready, answered⟩ :=
    answeredWith_of_request enrols asked (.inl rfl)
  have present := (enrols'.hasName_iff name).2 taken
  have generic : reply = { response := .genericError, delivered := [] } := by
    rw [← handled]
    exact congrArg Reply.ofResult
      (Handler.registerClient_of_taken (visit.occasion sender) key present)
  subst generic
  refine ⟨answered, Visit.registered_eq_nil ?_⟩
  obtain ⟨prepared, result, told⟩ := ready
  intro other id result'
  cases result.symm.trans result'
  rw [told]
  simp

/-- A lookup of a name on the roll is answered with its identifier and its key. -/
theorem found_of_name {entry : Registration} (enrols : store.Enrols roll) (listed : entry ∈ roll)
    (asked : visit.request? packetSize = some (sender, .publicKey entry.name))
    (caller : ∃ caller ∈ roll, caller.id = sender) :
    visit.AnsweredWith packetSize store (.publicKey entry.id entry.key) := by
  obtain ⟨noted, reply, enrols', -, handled, -, answered⟩ :=
    answeredWith_of_request enrols asked (.inr caller)
  obtain ⟨id, key⟩ := enrols'.lookUp_eq listed
  have looked : (Handler.lookUp entry.name).run noted
      = ⟨.ok { response := .publicKey entry.id entry.key, delivered := [] }, noted, []⟩ := by
    rw [Handler.run_lookUp, id, key]
  have told : reply = { response := .publicKey entry.id entry.key, delivered := [] } := by
    rw [← handled]
    show Reply.ofResult ((Handler.lookUp entry.name).run noted).result = _
    rw [looked]
    rfl
  have width : entry.key.length = publicKeySize :=
    Directory.width_of_checkFields (enrols.fits entry listed)
  rw [told, Reply.outgoing_of_encode (Response.exists_encode_publicKey entry.id width)] at answered
  exact answered

/-- A lookup of a name that is not on the roll is refused. -/
theorem unknown_of_name {name : String} (enrols : store.Enrols roll)
    (absent : ∀ entry ∈ roll, entry.name ≠ name)
    (asked : visit.request? packetSize = some (sender, .publicKey name))
    (caller : ∃ caller ∈ roll, caller.id = sender) :
    visit.AnsweredWith packetSize store .genericError := by
  obtain ⟨noted, reply, enrols', -, handled, -, answered⟩ :=
    answeredWith_of_request enrols asked (.inr caller)
  have looked : (Handler.lookUp name).run noted = ⟨.error (.nameNotFound name), noted, []⟩ := by
    rw [Handler.run_lookUp, enrols'.idOf?_eq_none absent]
  have told : reply = { response := .genericError, delivered := [] } := by
    rw [← handled]
    show Reply.ofResult ((Handler.lookUp name).run noted).result = _
    rw [looked]
    rfl
  rw [told] at answered
  exact answered

/-- A registration under a name that is not on the roll succeeds if a candidate is free and the
snapshot can be written. -/
theorem accepted_of_name {name : String} {key : Bytes} {id : ClientId} (enrols : store.Enrols roll)
    (absent : ∀ entry ∈ roll, entry.name ≠ name)
    (asked : visit.request? packetSize = some (sender, .register name key))
    (fresh : visit.circumstances.candidates.find? (fun id => ∀ entry ∈ roll, entry.id ≠ id)
      = some id)
    (written : true ∉ store.snapshotFaults) :
    visit.AnsweredWith packetSize store (.registered id) ∧
      visit.registered packetSize store = [⟨id, name, key⟩] := by
  obtain ⟨noted, reply, enrols', plan, handled, ⟨prepared, ready, same⟩, answered⟩ :=
    answeredWith_of_request enrols asked (.inl rfl)
  have fits : Directory.checkFields name key = .ok () := by
    obtain ⟨header, intake, off⟩ := Visit.request?_eq_some_iff.1 asked
    obtain ⟨bytes, decoded⟩ := Intake.decodeBody_of_readBody off.body
    exact Request.checkFields_of_decodeBody decoded
  have free : noted.directory.hasName name = false := by
    rw [Bool.eq_false_iff, Ne, enrols'.hasName_iff]
    rintro ⟨entry, he, named⟩
    exact absent entry he named
  have first : Handler.fresh? visit.circumstances.candidates noted = some id := by
    rw [← fresh, Handler.fresh?]
    congr 1
    funext candidate
    rw [Bool.eq_iff_iff, Bool.not_eq_true', Bool.eq_false_iff, Ne, enrols'.hasId_iff,
      decide_eq_true_eq]
    simp only [not_exists, not_and]
  have told : reply = { response := .registered id, delivered := [] } := by
    rw [← handled]
    have written' : true ∉ noted.snapshotFaults := fun planned => written (plan.subset planned)
    exact congrArg Reply.ofResult (Handler.registerClient_of_free (visit.occasion sender)
      enrols'.consistent free first fits written')
  subst told
  rw [Reply.outgoing_of_encode (Response.exists_encode_registered id)] at answered
  refine ⟨answered, Visit.registered_eq asked ready ?_⟩
  rw [same]

/-! ## Runs -/

/-- Something that happens to a relay. -/
inductive Happening where
  | visit (visit : Visit)
  /-- The relay goes down and comes up again. -/
  | restart

/-- A store, and the roll of those who were registered in it, in order. -/
structure Registry where
  store : Backend
  roll : List Registration

namespace Registry

/-- A connection changes the store and adds what it brought about to the roll; a restart keeps the
roll. -/
def step (packetSize : Nat) (registry : Registry) : Happening → Registry
  | .visit visit => {
      store := (visit.outcome packetSize registry.store).state.store
      roll := registry.roll ++ visit.registered packetSize registry.store }
  | .restart => { registry with store := registry.store.restarted }

/-- Where one happening after the other leads. -/
def after (packetSize : Nat) (registry : Registry) (happenings : List Happening) : Registry :=
  happenings.foldl (step packetSize) registry

/-- Whatever happens, the store enrols the roll. -/
theorem enrols_step {registry : Registry} (enrols : registry.store.Enrols registry.roll)
    (happening : Happening) :
    (registry.step packetSize happening).store.Enrols (registry.step packetSize happening).roll := by
  cases happening with
  | visit visit => exact enrols_outcome enrols
  | restart => exact enrols.restarted

/-- The clients of the store are those on the roll, throughout a run. -/
theorem enrols_after (packetSize : Nat) {registry : Registry}
    (enrols : registry.store.Enrols registry.roll) (happenings : List Happening) :
    (registry.after packetSize happenings).store.Enrols
      (registry.after packetSize happenings).roll := by
  induction happenings generalizing registry with
  | nil => exact enrols
  | cons happening happenings ih => exact ih (enrols_step enrols happening)

/-- Whatever happens, the roll only grows at its end. -/
theorem roll_prefix_after (packetSize : Nat) (registry : Registry) (happenings : List Happening) :
    registry.roll <+: (registry.after packetSize happenings).roll := by
  induction happenings generalizing registry with
  | nil => exact List.prefix_refl _
  | cons happening happenings ih =>
    refine List.IsPrefix.trans ?_ (ih (registry.step packetSize happening))
    cases happening with
    | visit visit => exact List.prefix_append _ _
    | restart => exact List.prefix_refl _

/-- What the registrations of a run are good for. -/
structure Permanent (packetSize : Nat) (registry : Registry) : Prop where
  /-- No identifier is given twice. -/
  distinct : (registry.roll.map (·.id)).Nodup
  /-- The clients of the store are those on the roll. -/
  clients : (registry.store.directory.all.map Registration.of).Perm registry.roll
  /-- Nobody is registered under a name that is taken. -/
  refused : ∀ (visit : Visit) (sender : ClientId) (name : String) (key : Bytes),
    visit.request? packetSize = some (sender, .register name key) →
    (∃ entry ∈ registry.roll, entry.name = name) →
    visit.AnsweredWith packetSize registry.store .genericError ∧
      visit.registered packetSize registry.store = []
  /-- Every client finds who is registered under a name. -/
  found : ∀ (visit : Visit) (sender : ClientId), ∀ entry ∈ registry.roll,
    visit.request? packetSize = some (sender, .publicKey entry.name) →
    (∃ caller ∈ registry.roll, caller.id = sender) →
    visit.AnsweredWith packetSize registry.store (.publicKey entry.id entry.key)
  /-- No client finds anybody under a name that is free. -/
  unknown : ∀ (visit : Visit) (sender : ClientId) (name : String),
    visit.request? packetSize = some (sender, .publicKey name) →
    (∀ entry ∈ registry.roll, entry.name ≠ name) →
    (∃ caller ∈ registry.roll, caller.id = sender) →
    visit.AnsweredWith packetSize registry.store .genericError
  /-- A name that is free can be had, with the first identifier that nobody has, unless the snapshot
  cannot be written. -/
  accepted : ∀ (visit : Visit) (sender : ClientId) (name : String) (key : Bytes) (id : ClientId),
    visit.request? packetSize = some (sender, .register name key) →
    (∀ entry ∈ registry.roll, entry.name ≠ name) →
    visit.circumstances.candidates.find? (fun id => ∀ entry ∈ registry.roll, entry.id ≠ id)
      = some id →
    true ∉ registry.store.snapshotFaults →
    visit.AnsweredWith packetSize registry.store (.registered id) ∧
      visit.registered packetSize registry.store = [⟨id, name, key⟩]

/-- Over any run on a store that was never used, whoever is registered once stays registered, alone
under that identifier and that name. -/
theorem registrations_permanent (packetSize : Nat) (store : Backend) (fresh : store.Fresh)
    (earlier later : List Happening) :
    (after packetSize ⟨store, []⟩ earlier).roll
        <+: (after packetSize ⟨store, []⟩ (earlier ++ later)).roll ∧
      Permanent packetSize (after packetSize ⟨store, []⟩ (earlier ++ later)) := by
  have whole : after packetSize ⟨store, []⟩ (earlier ++ later)
      = (after packetSize ⟨store, []⟩ earlier).after packetSize later := List.foldl_append
  have began : (Registry.mk store []).store.Enrols (Registry.mk store []).roll := fresh.enrols
  have enrols := enrols_after packetSize began (earlier ++ later)
  refine ⟨?_, ?_⟩
  · rw [whole]
    exact roll_prefix_after packetSize _ later
  exact {
    distinct := enrols.nodup_ids
    clients := enrols.listed
    refused := fun _ _ _ _ asked taken => refused_of_name enrols asked taken
    found := fun _ _ _ listed asked caller => found_of_name enrols listed asked caller
    unknown := fun _ _ _ asked absent caller => unknown_of_name enrols absent asked caller
    accepted := fun _ _ _ _ _ asked absent fresh written =>
      accepted_of_name enrols absent asked fresh written }

/-- A client registers, does so again with another key, and the relay restarts. -/
def retried : List Happening :=
  [.visit (.ofRequest .unregistered (.register "a" (List.replicate publicKeySize 7))),
    .visit (.ofRequest .unregistered (.register "a" (List.replicate publicKeySize 8))),
    .restart]

/-- If the first snapshot cannot be written, it is the second attempt that lasts. -/
theorem registrations_permanent_retried :
    ∃ store : Backend, store.Fresh ∧
      (after Protocol.packetSize ⟨store, []⟩ retried).roll
        = [⟨.ofBytes [1], "a", List.replicate publicKeySize 8⟩] ∧
      Permanent Protocol.packetSize (after Protocol.packetSize ⟨store, []⟩ (retried ++ retried)) := by
  let folder : DataFolder := { DataFolder.empty "data" with snapshotFaults := [true] }
  have opened : (Durable.openFolder.run folder).result = .ok _ :=
    Durable.result_openFolder_of_noFiles rfl rfl
  have fresh : (Backend.files _).Fresh := .files folder _ rfl rfl opened
  exact ⟨_, fresh, by decide +kernel,
    (registrations_permanent Protocol.packetSize _ fresh retried retried).2⟩

end Registry

end MessageRelay.Service
