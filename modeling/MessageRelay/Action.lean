import MessageRelay.Log.Notice

/-!
# Actions

An action works on a state, may fail, and gives notices while it runs. A failure ends it but keeps
the state as it was left and the notices given so far. Every equation here says what `run` makes of
one way of putting actions together.
-/

set_option autoImplicit false

namespace MessageRelay

open Log (Notice)

variable {σ τ ε ε' α β : Type}

/-- What came of an action. -/
structure Outcome (σ ε α : Type) where
  result : Except ε α
  state : σ
  notices : List Notice

/-- Work on a state `σ` that fails with an `ε` or gives an `α`. -/
structure Action (σ ε α : Type) where
  run : σ → Outcome σ ε α

namespace Action

/-- An action that only gives a value. -/
def give (a : α) : Action σ ε α :=
  ⟨fun s => ⟨.ok a, s, []⟩⟩

/-- An action that only fails. -/
def fail (e : ε) : Action σ ε α :=
  ⟨fun s => ⟨.error e, s, []⟩⟩

/-- One action and then another that depends on its value. -/
def andThen (first : Action σ ε α) (next : α → Action σ ε β) : Action σ ε β :=
  ⟨fun s =>
    let out := first.run s
    match out.result with
    | .error e => ⟨.error e, out.state, out.notices⟩
    | .ok a =>
      let out' := (next a).run out.state
      ⟨out'.result, out'.state, out.notices ++ out'.notices⟩⟩

instance : Monad (Action σ ε) where
  pure := give
  bind := andThen

/-- Gives a notice. -/
def tell (notice : Notice) : Action σ ε Unit :=
  ⟨fun s => ⟨.ok (), s, [notice]⟩⟩

/-- Gives several notices. -/
def tellAll (notices : List Notice) : Action σ ε Unit :=
  ⟨fun s => ⟨.ok (), s, notices⟩⟩

/-- The present state. -/
def look : Action σ ε σ :=
  ⟨fun s => ⟨.ok s, s, []⟩⟩

/-- Puts a state in place of the present one. -/
def replace (s : σ) : Action σ ε Unit :=
  ⟨fun _ => ⟨.ok (), s, []⟩⟩

/-- Changes the state. -/
def change (f : σ → σ) : Action σ ε Unit :=
  ⟨fun s => ⟨.ok (), f s, []⟩⟩

/-- A value or failure that is known already. -/
def ofExcept (result : Except ε α) : Action σ ε α :=
  ⟨fun s => ⟨result, s, []⟩⟩

/-- The action, with its failure as a value. -/
def attempt (action : Action σ ε α) : Action σ ε' (Except ε α) :=
  ⟨fun s =>
    let out := action.run s
    ⟨.ok out.result, out.state, out.notices⟩⟩

/-- The action, with its failure seen as another. -/
def mapError (f : ε → ε') (action : Action σ ε α) : Action σ ε' α :=
  ⟨fun s =>
    let out := action.run s
    ⟨out.result.mapError f, out.state, out.notices⟩⟩

/-- The action on a part of a larger state. -/
def on (part : τ → σ) (withPart : σ → τ → τ) (action : Action σ ε α) : Action τ ε α :=
  ⟨fun t =>
    let out := action.run (part t)
    ⟨out.result, withPart out.state t, out.notices⟩⟩

/-- An action that only gives a value leaves the state as it is and tells nothing. -/
@[simp] theorem run_pure (a : α) (s : σ) :
    (pure a : Action σ ε α).run s = ⟨.ok a, s, []⟩ := rfl

/-- An action that only fails leaves the state as it is and tells nothing. -/
@[simp] theorem run_fail (e : ε) (s : σ) :
    (fail e : Action σ ε α).run s = ⟨.error e, s, []⟩ := rfl

/-- Telling one notice changes nothing else. -/
@[simp] theorem run_tell (notice : Notice) (s : σ) :
    (tell notice : Action σ ε Unit).run s = ⟨.ok (), s, [notice]⟩ := rfl

/-- Telling several notices changes nothing else. -/
@[simp] theorem run_tellAll (notices : List Notice) (s : σ) :
    (tellAll notices : Action σ ε Unit).run s = ⟨.ok (), s, notices⟩ := rfl

/-- Looking at the state gives it and leaves it as it is. -/
@[simp] theorem run_look (s : σ) : (look : Action σ ε σ).run s = ⟨.ok s, s, []⟩ := rfl

/-- A replaced state is the new one, whatever was there before. -/
@[simp] theorem run_replace (s' s : σ) :
    (replace s' : Action σ ε Unit).run s = ⟨.ok (), s', []⟩ := rfl

/-- A changed state is what the change makes of the old one. -/
@[simp] theorem run_change (f : σ → σ) (s : σ) :
    (change f : Action σ ε Unit).run s = ⟨.ok (), f s, []⟩ := rfl

/-- A result that is known beforehand comes out of a run as it is. -/
@[simp] theorem run_ofExcept (result : Except ε α) (s : σ) :
    (ofExcept result : Action σ ε α).run s = ⟨result, s, []⟩ := rfl

/-- An attempt never fails: the error of what was attempted is its value, and the state and the
notices are those the attempted action leaves. -/
@[simp] theorem run_attempt (action : Action σ ε α) (s : σ) :
    (attempt action : Action σ ε' (Except ε α)).run s
      = ⟨.ok (action.run s).result, (action.run s).state, (action.run s).notices⟩ := rfl

/-- Renaming an error touches neither the state nor the notices. -/
@[simp] theorem run_mapError (f : ε → ε') (action : Action σ ε α) (s : σ) :
    (mapError f action).run s
      = ⟨(action.run s).result.mapError f, (action.run s).state, (action.run s).notices⟩ := rfl

/-- An action on a part of the state runs on that part, and what it leaves is put back. -/
@[simp] theorem run_on (part : τ → σ) (withPart : σ → τ → τ) (action : Action σ ε α) (t : τ) :
    (on part withPart action).run t
      = ⟨(action.run (part t)).result, withPart (action.run (part t)).state t,
          (action.run (part t)).notices⟩ := rfl

/-- Two actions in a row: the second one runs on the state that the first one leaves and tells
behind it, and does not run at all if the first one fails. -/
theorem run_bind (first : Action σ ε α) (next : α → Action σ ε β) (s : σ) :
    (first >>= next).run s =
      match (first.run s).result with
      | .error e => ⟨.error e, (first.run s).state, (first.run s).notices⟩
      | .ok a =>
        ⟨((next a).run (first.run s).state).result, ((next a).run (first.run s).state).state,
          (first.run s).notices ++ ((next a).run (first.run s).state).notices⟩ := rfl

end Action

end MessageRelay
