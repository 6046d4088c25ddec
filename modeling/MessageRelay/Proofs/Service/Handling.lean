import MessageRelay.Proofs.Service.Preparation
import MessageRelay.Proofs.Store.EitherKind

/-!
# What handlers do to a store

Handlers over a store of either kind. Those that list, look up and hand over messages leave the store
as it is. The other two make one call that changes the store, and make it last: a handler that fails
has left the data as they were, because the call that failed has (`Registering`, `Leaving`).
-/

set_option autoImplicit false

namespace MessageRelay.Service

open Connection
open Protocol
open Store (Backend RelayStore StoreError)

namespace Handler

/-- The first candidate that no client has. -/
def fresh? (candidates : List ClientId) (store : Backend) : Option ClientId :=
  candidates.find? fun id => !store.directory.hasId id

/-- A free identifier is the first candidate that no client has, and looking for it changes
nothing. -/
theorem run_freshId (candidates : List ClientId) (store : Backend) :
    (freshId candidates).run store
      = ⟨(fresh? candidates store).elim (.error .noFreshId) .ok, store, []⟩ := by
  induction candidates with
  | nil => rfl
  | cons candidate candidates ih =>
    rw [freshId, Action.run_bind, storing, Action.run_mapError, Backend.run_hasId]
    simp only [mapError_ok, fresh?, List.find?_cons]
    cases taken : store.directory.hasId candidate with
    | true =>
      simp only [if_true, ih, fresh?, Bool.not_true, List.nil_append]
    | false => rfl

/-! ## Registering -/

/-- How registering a client may end. -/
inductive Registering (occasion : Occasion) (name : String) (key : Bytes) (store : Backend) :
    Except HandlerError Reply → Backend → Prop where
  | nameTaken (taken : store.directory.hasName name = true) :
      Registering occasion name key store (.error (.nameTaken name)) store
  | noFreshId (free : store.directory.hasName name = false)
      (none : fresh? occasion.candidates store = none) :
      Registering occasion name key store (.error .noFreshId) store
  | failed {id : ClientId} {e : StoreError} {store' : Backend}
      (free : store.directory.hasName name = false)
      (fresh : fresh? occasion.candidates store = some id)
      (failed : Backend.Enrolment id name key occasion.now store (.error e) store') :
      Registering occasion name key store (.error (.storeFailed e)) store'
  | registered {id : ClientId} {store' : Backend}
      (free : store.directory.hasName name = false)
      (fresh : fresh? occasion.candidates store = some id)
      (enrolled : Backend.Enrolment id name key occasion.now store (.ok true) store') :
      Registering occasion name key store (.ok { response := .registered id, delivered := [] })
        store'

/-- A client with a new identifier and a new name is not in the directory. -/
theorem insert?_ne_none {store : Backend} {id : ClientId} {name : String} {key : Bytes}
    {now : Timestamp} (new : store.directory.hasId id = false)
    (free : store.directory.hasName name = false) :
    store.directory.insert? id name key now ≠ .ok none := by
  unfold Store.Directory.insert?
  rw [new, free]
  cases Store.Directory.checkFields name key with
  | error e => simp [bind, Except.bind]
  | ok _ => simp [bind, Except.bind]

/-- Registering a client ends in one of these ways. -/
theorem registerClient_registering (occasion : Occasion) (name : String) (key : Bytes)
    (store : Backend) :
    Registering occasion name key store ((registerClient occasion name key).run store).result
      ((registerClient occasion name key).run store).state := by
  unfold registerClient
  simp only [Action.run_bind, storing, Action.run_mapError, Backend.run_hasName, mapError_ok]
  cases free : store.directory.hasName name with
  | true => exact .nameTaken free
  | false =>
    simp only [Bool.false_eq_true, if_false, Action.run_bind, run_freshId,
      Action.run_mapError]
    cases fresh : fresh? occasion.candidates store with
    | none => exact .noFreshId free fresh
    | some id =>
      have enrolment := Backend.enrolment id name key occasion.now store
      simp only [Option.elim_some]
      generalize (RelayStore.insertClient id name key occasion.now).run store = out at enrolment ⊢
      obtain ⟨result, left_, notices⟩ := out
      match result with
      | .error e => exact .failed free fresh enrolment
      | .ok true => exact .registered free fresh enrolment
      | .ok false =>
        have new : store.directory.hasId id = false := by
          simpa using List.find?_some fresh
        cases enrolment with
        | occupied h => exact absurd h (insert?_ne_none new free)

/-- A client with a name that another one has is turned away because of it. -/
theorem registerClient_of_taken (occasion : Occasion) {name : String} (key : Bytes)
    {store : Backend} (taken : store.directory.hasName name = true) :
    ((registerClient occasion name key).run store).result = .error (.nameTaken name) := by
  have registering := registerClient_registering occasion name key store
  generalize ((registerClient occasion name key).run store).result = result at registering ⊢
  generalize ((registerClient occasion name key).run store).state = left_ at registering
  cases registering with
  | nameTaken => rfl
  | noFreshId free | failed free | registered free => cases taken.symm.trans free

/-- A client with a name that is free is registered, unless the snapshot cannot be written. -/
theorem registerClient_of_free (occasion : Occasion) {name : String} {key : Bytes} {id : ClientId}
    {store : Backend} (consistent : store.directory.Consistent)
    (free : store.directory.hasName name = false)
    (first : fresh? occasion.candidates store = some id)
    (fits : Store.Directory.checkFields name key = .ok ())
    (written : true ∉ store.snapshotFaults) :
    ((registerClient occasion name key).run store).result
      = .ok { response := .registered id, delivered := [] } := by
  have registering := registerClient_registering occasion name key store
  generalize ((registerClient occasion name key).run store).result = result at registering ⊢
  generalize ((registerClient occasion name key).run store).state = left_ at registering
  cases registering with
  | nameTaken taken => cases free.symm.trans taken
  | noFreshId _ none => cases first.symm.trans none
  | failed _ _ failed =>
    cases failed with
    | refused h =>
      rw [consistent.insert?_eq, fits] at h
      cases h
    | unwritten fault => exact absurd (List.mem_of_mem_head? fault) written
  | registered _ other =>
    cases first.symm.trans other
    rfl

/-! ## Leaving a message -/

/-- How leaving a message may end. -/
inductive Leaving (target : ClientId) (store : Backend) :
    Except HandlerError Reply → Backend → Prop where
  | refused {e : HandlerError} {store' : Backend} (spared : store.Spared store') :
      Leaving target store (.error e) store'
  | taken {id : UInt32} {store' : Backend} (directory : store'.directory = store.directory)
      (sound : ∀ next, store.Sound next → ∃ next', store'.Sound next') :
      Leaving target store (.ok { response := .messageSent target id, delivered := [] }) store'

/-- Leaving a message ends in one of these ways. -/
theorem leaveMessage_leaving (occasion : Occasion) (target : ClientId) (number : UInt8)
    (content : Bytes) (store : Backend) :
    Leaving target store ((leaveMessage occasion target number content).run store).result
      ((leaveMessage occasion target number content).run store).state := by
  unfold leaveMessage
  cases MessageType.ofNumber? number with
  | none => exact .refused (.refl store)
  | some type =>
    simp only [Action.run_bind, storing, Action.run_mapError, Backend.run_hasId, mapError_ok]
    cases store.directory.hasId target with
    | false => exact .refused (.refl store)
    | true =>
      simp only [if_true, Action.run_bind, Action.run_mapError]
      cases result : ((RelayStore.insertMessage target occasion.sender type content).run
          store).result with
      | error e => exact .refused (Backend.spared_insertMessage occasion.now result)
      | ok id =>
        refine .taken (Backend.directory_insertMessage occasion.now target occasion.sender type
          content store) ?_
        intro next sound
        exact sound.insertMessage target occasion.sender type content occasion.now

/-! ## Any request -/

/-- What handling a request may give and leave. -/
inductive Handling (handler : Handler) (occasion : Occasion) (store : Backend) :
    Request → Except HandlerError Reply → Backend → Prop where
  | registering {name : String} {key : Bytes} {result : Except HandlerError Reply}
      {store' : Backend} (own : handler = .register)
      (registering : Registering occasion name key store result store') :
      Handling handler occasion store (.register name key) result store'
  | leaving {target : ClientId} {number : UInt8} {content : Bytes}
      {result : Except HandlerError Reply} {store' : Backend}
      (leaving : Leaving target store result store') :
      Handling handler occasion store (.sendMessage target number content) result store'
  | asking {request : Request} {result : Except HandlerError Reply}
      (others : ∀ reply id, result = .ok reply → reply.response ≠ .registered id) :
      Handling handler occasion store request result store

/-- A lookup gives the identifier and the key that the store has for a name, and changes nothing. -/
theorem run_lookUp (name : String) (store : Backend) :
    (lookUp name).run store
      = match store.directory.idOf? name, store.directory.keyOf? name with
        | some id, some key =>
          ⟨.ok { response := .publicKey id key, delivered := [] }, store, []⟩
        | _, _ => ⟨.error (.nameNotFound name), store, []⟩ := by
  simp only [lookUp, Action.run_bind, storing, Action.run_mapError, Backend.run_idByName,
    Backend.run_publicKey, mapError_ok]
  cases store.directory.idOf? name with
  | none => rfl
  | some id => cases store.directory.keyOf? name <;> rfl

/-- Handling a request ends in one of these ways. -/
theorem handle_handling (handler : Handler) (occasion : Occasion) (request : Request)
    (store : Backend) :
    Handling handler occasion store request ((handler.handle occasion request).run store).result
      ((handler.handle occasion request).run store).state := by
  unfold handle
  split
  · exact .registering rfl (registerClient_registering occasion _ _ store)
  · simp only [listClients, Action.run_bind, storing, Action.run_mapError, Backend.run_clients]
    refine .asking fun reply id told => ?_
    cases told
    simp
  · rename_i name
    rw [run_lookUp]
    split
    · refine .asking fun reply id told => ?_
      cases told
      simp
    · exact .asking (by simp)
  · exact .leaving (leaveMessage_leaving occasion _ _ _ store)
  · simp only [collect, Action.run_bind, storing, Action.run_mapError, Backend.run_unread]
    refine .asking fun reply id told => ?_
    cases told
    simp
  · exact .asking (by simp)

end Handler

/-! ## Checking the sender -/

/-- Admitting a sender leaves the store as it is. -/
theorem Relay.Admitted.store_eq {code : RequestCode} {sender : ClientId} {store checked : Backend}
    (h : Relay.Admitted code sender store checked) : checked = store := by
  cases h with
  | newcomer => rfl
  | client serves asked known =>
    rw [Backend.run_hasId] at asked
    rw [← asked]

/-- Noting that an admitted sender was seen finds the store as it was before the check. -/
theorem Relay.Admitted.sighting {code : RequestCode} {sender : ClientId} {store checked : Backend}
    (h : Relay.Admitted code sender store checked) (now : Timestamp) :
    Backend.Sighting sender now store
      ((RelayStore.updateLastSeen sender now).run checked).state := by
  rw [h.store_eq]
  exact Backend.sighting sender now store

/-- Turning a sender away leaves the store as it is. -/
theorem Relay.TurnedAway.store_eq {code : RequestCode} {sender : ClientId} {store left_ : Backend}
    {cause : DispatchError} (h : Relay.TurnedAway code sender store cause left_) :
    left_ = store := by
  cases h with
  | stranger serves asked unknown =>
    rw [Backend.run_hasId] at asked
    rw [← asked]
  | unasked serves asked failed =>
    rw [Backend.run_hasId] at asked
    rw [← asked]

/-- Who is turned away is no client and does not ask to become one. -/
theorem Relay.TurnedAway.stranger_of {code : RequestCode} {sender : ClientId}
    {store left_ : Backend} {cause : DispatchError}
    (h : Relay.TurnedAway code sender store cause left_) :
    code ≠ .register ∧ store.directory.hasId sender = false := by
  cases h with
  | stranger serves asked unknown =>
    rw [Backend.run_hasId] at asked
    rw [← asked] at unknown
    exact ⟨serves, Except.ok.inj unknown⟩
  | unasked serves asked failed =>
    rw [Backend.run_hasId] at asked
    rw [← asked] at failed
    cases failed

end MessageRelay.Service
