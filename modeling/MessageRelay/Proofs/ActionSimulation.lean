import MessageRelay.Action

/-!
# Actions that behave alike

Two actions on different states are alike if they give the same results and the same notices from
states that a relation connects, and leave states that it connects again. Actions put together in
the same way from actions that are alike are alike. Actions that run to a value can be taken apart
again (`exists_of_run_bind_ok`).
-/

set_option autoImplicit false

namespace MessageRelay

variable {σ τ ε ε' α β : Type}

/-- Outcomes that are the same but for their states, which a relation connects. -/
structure Outcome.Alike (S : σ → τ → Prop) (out : Outcome σ ε α) (out' : Outcome τ ε α) :
    Prop where
  result : out.result = out'.result
  notices : out.notices = out'.notices
  states : S out.state out'.state

/-- Outcomes whose notices may differ at their front, where another relation connects them: behind
it the notices are the same. -/
structure Outcome.AlikeBehind (N : List Log.Notice → List Log.Notice → Prop) (S : σ → τ → Prop)
    (out : Outcome σ ε α) (out' : Outcome τ ε α) : Prop where
  result : out.result = out'.result
  notices : ∃ news news' rest, N news news' ∧ out.notices = news ++ rest ∧
    out'.notices = news' ++ rest
  states : S out.state out'.state

/-- Outcomes are alike if the fronts of their notices are the same as well. -/
theorem Outcome.AlikeBehind.alike {S : σ → τ → Prop} {out : Outcome σ ε α} {out' : Outcome τ ε α}
    (h : out.AlikeBehind Eq S out') : out.Alike S out' := by
  obtain ⟨news, _, rest, rfl, told, told'⟩ := h.notices
  exact ⟨h.result, told.trans told'.symm, h.states⟩

/-! ## Results -/

/-- A success is the same success under another name for errors. -/
theorem mapError_ok (f : ε → ε') (a : α) : (Except.ok a).mapError f = .ok a := rfl

/-- An error is renamed by the given function. -/
theorem mapError_error (f : ε → ε') (e : ε) :
    (Except.error e : Except ε α).mapError f = .error (f e) := rfl

namespace Action

/-- Actions whose outcomes are alike from all states that a relation connects. -/
def Alike (S : σ → τ → Prop) (action : Action σ ε α) (action' : Action τ ε α) : Prop :=
  ∀ s t, S s t → (action.run s).Alike S (action'.run t)

variable {S : σ → τ → Prop}

/-- The same value runs alike from related states. -/
theorem alike_pure (a : α) : Alike S (pure a : Action σ ε α) (pure a) :=
  fun _ _ h => ⟨rfl, rfl, h⟩

/-- The same failure runs alike from related states. -/
theorem alike_fail (e : ε) : Alike S (fail e : Action σ ε α) (fail e) :=
  fun _ _ h => ⟨rfl, rfl, h⟩

/-- The same notice is told alike from related states. -/
theorem alike_tell (notice : Log.Notice) : Alike S (tell notice : Action σ ε Unit) (tell notice) :=
  fun _ _ h => ⟨rfl, rfl, h⟩

/-- The second action only has to be alike for the value that the first one gives, and may leave
states that are connected less closely than those that the first one leaves. -/
theorem alike_run_bind_of {R S : σ → τ → Prop} {first : Action σ ε α} {first' : Action τ ε α}
    {next : α → Action σ ε β} {next' : α → Action τ ε β} {s : σ} {t : τ}
    (h : (first.run s).Alike R (first'.run t)) (weaker : ∀ s t, R s t → S s t)
    (hn : ∀ a, (first.run s).result = .ok a →
      ∀ s t, R s t → ((next a).run s).Alike S ((next' a).run t)) :
    ((first >>= next).run s).Alike S ((first' >>= next').run t) := by
  rw [run_bind, run_bind, ← h.result]
  cases hr : (first.run s).result with
  | error e => exact ⟨rfl, h.notices, weaker _ _ h.states⟩
  | ok a =>
    have out := hn a hr _ _ h.states
    refine ⟨out.result, ?_, out.states⟩
    show _ ++ _ = _ ++ _
    rw [h.notices, out.notices]

/-- What is alike from the second action on leaves only the front of the notices apart. -/
theorem alikeBehind_run_bind {N : List Log.Notice → List Log.Notice → Prop}
    {first : Action σ ε α} {first' : Action τ ε α} {next : α → Action σ ε β}
    {next' : α → Action τ ε β} {s : σ} {t : τ}
    (h : (first.run s).AlikeBehind N S (first'.run t)) (hn : ∀ a, Alike S (next a) (next' a)) :
    ((first >>= next).run s).AlikeBehind N S ((first' >>= next').run t) := by
  obtain ⟨news, news', rest, fronts, told, told'⟩ := h.notices
  rw [run_bind, run_bind, ← h.result]
  cases (first.run s).result with
  | error e => exact ⟨rfl, ⟨news, news', rest, fronts, told, told'⟩, h.states⟩
  | ok a =>
    have out := hn a _ _ h.states
    refine ⟨out.result, ⟨news, news', rest ++ ((next a).run (first.run s).state).notices, fronts,
      ?_, ?_⟩, out.states⟩
    · simp only [told, List.append_assoc]
    · simp only [told', out.notices, List.append_assoc]

/-- Two runs stay alike through the next action if that runs alike from any related states, for each
value that the first action gives. -/
theorem alike_run_bind {first : Action σ ε α} {first' : Action τ ε α} {next : α → Action σ ε β}
    {next' : α → Action τ ε β} {s : σ} {t : τ} (h : (first.run s).Alike S (first'.run t))
    (hn : ∀ a, (first.run s).result = .ok a → Alike S (next a) (next' a)) :
    ((first >>= next).run s).Alike S ((first' >>= next').run t) :=
  alike_run_bind_of h (fun _ _ connected => connected) hn

/-- Actions that run alike do so one behind the other. -/
theorem alike_bind {first : Action σ ε α} {first' : Action τ ε α} {next : α → Action σ ε β}
    {next' : α → Action τ ε β} (h : Alike S first first') (hn : ∀ a, Alike S (next a) (next' a)) :
    Alike S (first >>= next) (first' >>= next') := by
  intro s t hst
  apply alike_run_bind (h s t hst)
  intro a _
  exact hn a

/-- Attempts at actions that run alike run alike. -/
theorem alike_attempt {action : Action σ ε α} {action' : Action τ ε α} (h : Alike S action action') :
    Alike S (attempt action : Action σ ε' (Except ε α)) (attempt action') := by
  intro s t hst
  have out := h s t hst
  exact ⟨congrArg Except.ok out.result, out.notices, out.states⟩

/-- Actions that run alike still do when their errors are renamed the same way. -/
theorem alike_mapError {action : Action σ ε α} {action' : Action τ ε α} (f : ε → ε')
    (h : Alike S action action') : Alike S (mapError f action) (mapError f action') := by
  intro s t hst
  have out := h s t hst
  exact ⟨congrArg (Except.mapError f) out.result, out.notices, out.states⟩

/-- An action that keeps a property is like itself on the states that have it. -/
theorem alike_of_invariant {P : σ → Prop} {action : Action σ ε α}
    (h : ∀ s, P s → P (action.run s).state) : Alike (fun s t => s = t ∧ P s) action action := by
  rintro s _ ⟨rfl, hs⟩
  exact ⟨rfl, rfl, rfl, h s hs⟩

/-- Renaming failures changes no value. -/
theorem result_mapError_eq_ok_iff (f : ε → ε') (action : Action σ ε α) (s : σ) (a : α) :
    ((mapError f action).run s).result = .ok a ↔ (action.run s).result = .ok a := by
  rw [run_mapError]
  cases (action.run s).result with
  | error e => simp [mapError_error]
  | ok b => simp [mapError_ok]

/-- A sequence that gives a value gives it through values of its parts. -/
theorem exists_of_run_bind_ok {first : Action σ ε α} {next : α → Action σ ε β} {s : σ} {b : β}
    (h : ((first >>= next).run s).result = .ok b) :
    ∃ a, (first.run s).result = .ok a ∧ ((next a).run (first.run s).state).result = .ok b ∧
      ((first >>= next).run s).state = ((next a).run (first.run s).state).state := by
  rw [run_bind] at h
  rw [run_bind]
  cases hr : (first.run s).result with
  | error e =>
    rw [hr] at h
    cases h
  | ok a =>
    rw [hr] at h
    exact ⟨a, rfl, h, rfl⟩

/-- What a sequence leaves if its first part fails. -/
theorem run_bind_of_error {first : Action σ ε α} {next : α → Action σ ε β} {s : σ} {e : ε}
    (h : (first.run s).result = .error e) :
    ((first >>= next).run s).result = .error e ∧
      ((first >>= next).run s).state = (first.run s).state := by
  rw [run_bind, h]
  exact ⟨rfl, rfl⟩

/-- What a sequence leaves if its first part gives a value. -/
theorem run_bind_of_ok {first : Action σ ε α} {next : α → Action σ ε β} {s : σ} {a : α}
    (h : (first.run s).result = .ok a) :
    ((first >>= next).run s).result = ((next a).run (first.run s).state).result ∧
      ((first >>= next).run s).state = ((next a).run (first.run s).state).state := by
  rw [run_bind, h]
  exact ⟨rfl, rfl⟩

/-- Wrapping the value of an action changes nothing else. -/
theorem run_bind_pure (action : Action σ ε α) (f : α → β) (s : σ) :
    (action >>= fun a => pure (f a)).run s
      = ⟨(action.run s).result.map f, (action.run s).state, (action.run s).notices⟩ := by
  rw [run_bind]
  cases (action.run s).result with
  | error e => rfl
  | ok a => simp [Except.map]

end Action

end MessageRelay
