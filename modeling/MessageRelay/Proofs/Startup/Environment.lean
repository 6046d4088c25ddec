import MessageRelay.Proofs.Startup.Sources

/-!
# Variables of the environment that make no sense

A number to listen on that is none is left aside. A host that is no address and an unknown kind of
storage are not: they take the place of what was there, and the relay does not start. So the
settings survive the environment exactly if these two variables make sense where they are set
(`environment_harmless_iff`).
-/

set_option autoImplicit false

namespace MessageRelay.Startup

namespace Settings

/-- Settings with which a relay can start: the kind of storage and the host make sense. -/
def Working (settings : Settings) : Prop :=
  (∃ storage, settings.storageMode = .ok storage) ∧ ∃ address, settings.address = .ok address

/-- Settings have a kind of store exactly if they name one. -/
theorem exists_storageMode_iff (settings : Settings) :
    (∃ storage, settings.storageMode = .ok storage) ↔ NamesStorage settings.storage.mode := by
  unfold storageMode NamesStorage
  by_cases memory : settings.storage.mode = "memory"
  · simp [memory]
  · by_cases file : settings.storage.mode = "file"
    · simp [file]
    · simp [memory, file]

/-- Settings have an address exactly if they name one. -/
theorem exists_address_iff (settings : Settings) :
    (∃ address, settings.address = .ok address) ↔ NamesAddress settings.host := by
  unfold address NamesAddress
  cases Network.IpAddress.ofText? settings.host <;> simp

end Settings

/-- What makes sense still does after a value took its place, and no other value did so, exactly if
the value makes sense. -/
theorem kept_iff {valid : String → Prop} {before : String} (sound : valid before)
    (value? : Option String) :
    valid (value?.getD before) ∧ (∀ value ∈ value?, ¬ valid value → value?.getD before = before) ↔
      ∀ value ∈ value?, valid value := by
  cases value? with
  | none => simp [sound]
  | some value =>
    simp only [Option.getD_some, Option.mem_some_iff, forall_eq']
    exact ⟨And.left, fun holds => ⟨holds, fun fails => absurd holds fails⟩⟩

/-- Of settings that work, the number to listen on is kept where its variable holds none. The host
still makes sense and is kept where its variable holds no address exactly if it holds one whenever
it is set. The kind of storage still makes sense and is kept where its variable holds no such kind
exactly if it holds one whenever it is set. -/
theorem environment_harmless_iff {settings : Settings} (working : settings.Working)
    (valueOf? : String → Option String) :
    let after := ((environmentLayer valueOf?).run settings).state
    (∀ text ∈ valueOf? "RELAY_PORT", listenNumber? text.toList = none →
        after.listenNumber = settings.listenNumber) ∧
      ((∃ address, after.address = .ok address) ∧
          (∀ host ∈ valueOf? "RELAY_HOST", ¬ NamesAddress host → after.host = settings.host) ↔
        ∀ host ∈ valueOf? "RELAY_HOST", NamesAddress host) ∧
      ((∃ storage, after.storageMode = .ok storage) ∧
          (∀ mode ∈ valueOf? "RELAY_STORAGE_MODE", ¬ NamesStorage mode →
            after.storage.mode = settings.storage.mode) ↔
        ∀ mode ∈ valueOf? "RELAY_STORAGE_MODE", NamesStorage mode) := by
  intro after
  have taken : after = (takenFromEnvironment valueOf?).apply settings :=
    (environmentLayer_puts valueOf? settings).2
  have storage := settings.exists_storageMode_iff.1 working.1
  have address := settings.exists_address_iff.1 working.2
  rw [Settings.exists_address_iff, Settings.exists_storageMode_iff, taken]
  refine ⟨?_, kept_iff address _, kept_iff storage _⟩
  intro text set_ none_
  have unstated : (takenFromEnvironment valueOf?).listenNumber? = none := by
    simp only [takenFromEnvironment, statedInEnvironment, Option.mem_def.1 set_, Option.bind_some,
      none_]
  rw [Flags.apply, unstated, Option.getD_none]

/-- The standard settings work. -/
theorem working_standard : Settings.standard.Working :=
  ⟨⟨.memory, rfl⟩, ⟨.v4 127 0 0 1, rfl⟩⟩

/-- A number to listen on that is none, beside a host that is an address. -/
theorem environment_harmless_iff_noNumber :
    let valueOf? (name : String) : Option String :=
      if name = "RELAY_PORT" then some "eighty"
      else if name = "RELAY_HOST" then some "::1"
      else none
    let after := ((environmentLayer valueOf?).run .standard).state
    Settings.standard.Working ∧ after.listenNumber = 1357 ∧
      (∃ address, after.address = .ok address) ∧ ∃ storage, after.storageMode = .ok storage := by
  intro valueOf? after
  obtain ⟨number, host, mode⟩ := environment_harmless_iff working_standard valueOf?
  have named : NamesAddress "::1" := rfl
  exact ⟨working_standard, number "eighty" rfl rfl,
    (host.2 fun _ set_ => by cases set_; exact named).1,
    (mode.2 fun _ set_ => by cases set_).1⟩

/-- A host that is no address and a kind of storage that there is not each take the place of one
with which the relay could start, and then it cannot. -/
theorem environment_spoils_settings :
    let hosted (name : String) : Option String :=
      if name = "RELAY_HOST" then some "localhost" else none
    let stored (name : String) : Option String :=
      if name = "RELAY_STORAGE_MODE" then some "redis" else none
    Settings.standard.Working ∧
      ((environmentLayer hosted).run .standard).state.host = "localhost" ∧
      ((environmentLayer hosted).run .standard).state.address = .error (.badHost "localhost") ∧
      ((environmentLayer stored).run .standard).state.storage.mode = "redis" ∧
      ((environmentLayer stored).run .standard).state.storageMode = .error (.badMode "redis") :=
  ⟨working_standard, rfl, rfl, rfl, rfl⟩

end MessageRelay.Startup
