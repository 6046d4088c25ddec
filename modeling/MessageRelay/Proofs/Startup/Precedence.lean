import MessageRelay.Proofs.ActionSimulation
import MessageRelay.Proofs.Startup.Sources
import MessageRelay.Startup.Launch

/-!
# Which source decides a setting

Every setting of a relay that starts is what the first of its sources states that states it at all:
the command line, the environment, the file with the number to listen on, the document, and behind
them what is standard (`settings_follow_sources`). Each layer puts what its source states over what
the layers before it left, so the settings are the sources put over each other in turn.
-/

set_option autoImplicit false

namespace MessageRelay.Startup

/-! ## Sources over each other -/

/-- A setting after some sources were put over each other, the first on top, is what the first that
states it says. -/
theorem get_foldr_apply {α : Type} (setting : Settings → α) (stated : Flags → Option α)
    (put : ∀ flags settings, setting (Flags.apply flags settings)
      = (stated flags).getD (setting settings))
    (sources : List Flags) (settings : Settings) :
    setting (sources.foldr Flags.apply settings)
      = (sources.findSome? stated).getD (setting settings) := by
  induction sources with
  | nil => rfl
  | cons source sources ih =>
    rw [List.foldr_cons, put, ih, List.findSome?_cons]
    cases stated source <;> rfl

/-- The sources of the settings of a relay, from the one that counts most to the one that counts
least. -/
def sourcesOf (surroundings : Surroundings) (arguments : Arguments) : List Flags :=
  let file (path : String) : SourceFile := ⟨path, surroundings.content? path⟩
  [arguments.flags, statedInEnvironment surroundings.valueOf?,
    (file arguments.numberPath).statedNumber, (file arguments.documentPath).statedInDocument]

/-! ## The course of a start -/

/-- Where its host and its kind of storage make sense, the environment puts what it states. -/
theorem environmentLayer_puts_stated {valueOf? : String → Option String}
    (hosts : ∀ host ∈ valueOf? "RELAY_HOST", NamesAddress host)
    (modes : ∀ mode ∈ valueOf? "RELAY_STORAGE_MODE", NamesStorage mode) :
    (environmentLayer valueOf?).Puts (statedInEnvironment valueOf?) := by
  have all (valid : String → Bool) {value? : Option String} (h : ∀ value ∈ value?, valid value) :
      value?.filter valid = value? := by
    cases value? with
    | none => rfl
    | some value => exact Option.filter_some_pos (h value rfl)
  have host := all _ hosts
  have mode := all (fun mode => mode = "memory" ∨ mode = "file") fun mode set_ =>
    decide_eq_true (modes mode set_)
  have same : takenFromEnvironment valueOf? = statedInEnvironment valueOf? := by
    rw [takenFromEnvironment, statedInEnvironment, host, mode]
  rw [← same]
  exact environmentLayer_puts valueOf?

/-- Gathering the settings puts the file with the number over the document, and the environment over
both. -/
theorem run_loadLayer (document number : SourceFile) {valueOf? : String → Option String}
    {stated : Flags} (environment : (environmentLayer valueOf?).Puts stated)
    (objection : String → String) (before : Settings) :
    ((loadLayer document number valueOf? objection).run before).result = .ok () ∧
      ((loadLayer document number valueOf? objection).run before).state
        = stated.apply (number.statedNumber.apply (document.statedInDocument.apply .standard)) := by
  have told : Layer.Puts (Action.look >>= fun settings => Action.tell (.info settings.summary))
      .none := fun _ => ⟨rfl, rfl⟩
  have rest := (numberLayer_puts number).andThen (environment.andThen told)
  obtain ⟨read, documented⟩ := run_documentLayer document objection before
  rw [loadLayer, (Action.run_bind_of_ok read).1, (Action.run_bind_of_ok read).2, documented]
  have put := rest (document.statedInDocument.apply .standard)
  rwa [Flags.apply_atop, Flags.apply_atop] at put

/-- Saying something makes no difference to what follows. -/
theorem run_say_bind {α : Type} (next : Phase α) (progress : Progress) (text : String) :
    ((Phase.say text >>= fun _ => next).run progress).result = (next.run progress).result ∧
      ((Phase.say text >>= fun _ => next).run progress).state = (next.run progress).state :=
  Action.run_bind_of_ok (by rw [Phase.say, Action.run_tell])

/-- What follows once the settings that a layer leaves are taken in. -/
theorem run_settle_bind {α : Type} (layer : Layer) {after : Settings} (progress : Progress)
    (next : Phase α) (h : (layer.run progress.settings).result = .ok () ∧
      (layer.run progress.settings).state = after) :
    ((Phase.settle layer >>= fun _ => next).run progress).result
        = (next.run ⟨after, progress.folder?⟩).result ∧
      ((Phase.settle layer >>= fun _ => next).run progress).state
        = (next.run ⟨after, progress.folder?⟩).state := by
  obtain ⟨done, rfl⟩ := h
  have settled : ((Phase.settle layer).run progress).result = .ok () := by
    rw [Phase.settle, Action.run_on, Action.run_mapError, done]
    rfl
  exact Action.run_bind_of_ok settled

/-- What is planned by settings. -/
def Settings.Leads (settings : Settings) (plan : Plan) : Prop :=
  settings.storageMode = .ok plan.storage ∧ settings.address = .ok plan.address ∧
    settings.listenNumber = plan.listenNumber ∧ settings.backlog = plan.backlog

/-- The end of the preparation, where the settings are known. -/
def Phase.decide : Phase Plan := do
  let progress ← Action.look
  let settings := progress.settings
  let storage ← Action.ofExcept (settings.storageMode.mapError .settings)
  let address ← Action.ofExcept (settings.address.mapError .settings)
  return ⟨storage, address, settings.listenNumber, settings.backlog⟩

/-- Deciding comes to the plan that the settings lead to, and changes nothing. -/
theorem run_decide (progress : Progress) :
    (Phase.decide.run progress).state = progress ∧
      ∀ plan, (Phase.decide.run progress).result = .ok plan ↔ progress.settings.Leads plan := by
  simp only [Phase.decide, Action.run_bind, Action.run_look, Action.run_ofExcept, Settings.Leads]
  cases storage : progress.settings.storageMode with
  | error fault => simp [mapError_error]
  | ok mode =>
    cases address : progress.settings.address with
    | error fault => simp [mapError_ok, mapError_error]
    | ok address =>
      refine ⟨rfl, fun plan => ?_⟩
      obtain ⟨storage, address, number, backlog⟩ := plan
      simp [mapError_ok]

/-- But for what it says first, the preparation takes in two layers and decides. -/
theorem exists_prepare_eq (surroundings : Surroundings) (arguments : Arguments) :
    let file (path : String) : SourceFile := ⟨path, surroundings.content? path⟩
    ∃ text, Phase.prepare surroundings arguments = Phase.say text >>= fun _ =>
      Phase.settle (loadLayer (file arguments.documentPath) (file arguments.numberPath)
        surroundings.valueOf? surroundings.objection) >>= fun _ =>
      Phase.settle (Action.change arguments.flags.apply) >>= fun _ => Phase.decide :=
  ⟨_, rfl⟩

/-- A relay decides by the settings that it gathered, with what the command line states over them.
-/
theorem run_prepare (surroundings : Surroundings) (arguments : Arguments) {stated : Flags}
    (environment : (environmentLayer surroundings.valueOf?).Puts stated) (progress : Progress) :
    let file (path : String) : SourceFile := ⟨path, surroundings.content? path⟩
    let prepared := (Phase.prepare surroundings arguments).run progress
    prepared.state.settings
        = arguments.flags.apply (stated.apply ((file arguments.numberPath).statedNumber.apply
            ((file arguments.documentPath).statedInDocument.apply .standard))) ∧
      ∀ plan, prepared.result = .ok plan ↔ prepared.state.settings.Leads plan := by
  intro file prepared
  obtain ⟨text, course⟩ := exists_prepare_eq surroundings arguments
  have loaded := run_loadLayer (file arguments.documentPath) (file arguments.numberPath) environment
    surroundings.objection progress.settings
  obtain ⟨result, state⟩ := run_say_bind _ progress text
  rw [← course, (run_settle_bind _ progress _ loaded).1, (run_settle_bind _ _ _ ⟨rfl, rfl⟩).1]
    at result
  rw [← course, (run_settle_bind _ progress _ loaded).2, (run_settle_bind _ _ _ ⟨rfl, rfl⟩).2]
    at state
  obtain ⟨kept, decided⟩ := run_decide _
  have settings : prepared.state.settings = _ :=
    congrArg Progress.settings (state.trans kept)
  refine ⟨settings, fun plan => ?_⟩
  rw [result, settings]
  exact decided plan

/-- If the host and the kind of storage of the environment make sense where they are set, every
setting of a relay is what the first source that states it says, and standard if none does. The
sources are the command line, the environment, the file with the number to listen on and the
document with the settings, in this order. The environment states a number to listen on if its
variable is one as it stands, and the file if its first line is one without the blanks at its ends.
Each layer puts what its source states in place of what was there and leaves the rest as it was, and
the relay plans by the settings that come of it, if they make sense. -/
theorem settings_follow_sources (surroundings : Surroundings) (arguments : Arguments)
    (progress : Progress)
    (hosts : ∀ host ∈ surroundings.valueOf? "RELAY_HOST", NamesAddress host)
    (modes : ∀ mode ∈ surroundings.valueOf? "RELAY_STORAGE_MODE", NamesStorage mode) :
    let prepared := (Phase.prepare surroundings arguments).run progress
    let settings := prepared.state.settings
    let sources := sourcesOf surroundings arguments
    (settings.host = (sources.findSome? Flags.host?).getD "127.0.0.1" ∧
        settings.listenNumber = (sources.findSome? Flags.listenNumber?).getD 1357 ∧
        settings.backlog = (sources.findSome? Flags.backlog?).getD 5 ∧
        settings.storage.mode = (sources.findSome? Flags.mode?).getD "memory" ∧
        settings.storage.dataFolder = (sources.findSome? Flags.dataFolder?).getD "./relaydata" ∧
        settings.storage.sync = (sources.findSome? Flags.sync?).getD true) ∧
      (∀ plan, prepared.result = .ok plan ↔ settings.Leads plan) ∧
      (∀ file, (numberLayer file).Puts file.statedNumber) ∧
      (environmentLayer surroundings.valueOf?).Puts (statedInEnvironment surroundings.valueOf?) ∧
      (∀ file objection before, ((documentLayer file objection).run before).state
        = file.statedInDocument.apply .standard) ∧
      ∀ text n, listenNumber? text = some n ↔
        ∃ digits, (text = digits ∨ text = '+' :: digits) ∧ digits ≠ [] ∧
          (∀ c ∈ digits, Text.isDigit c) ∧ Nat.ofDigitChars 10 digits 0 = n.toNat := by
  intro prepared settings sources
  have environment := environmentLayer_puts_stated hosts modes
  obtain ⟨layered, planned⟩ := run_prepare surroundings arguments environment progress
  have folded : settings = sources.foldr Flags.apply .standard := layered
  refine ⟨?_, planned, numberLayer_puts, environment,
    fun file objection before => (run_documentLayer file objection before).2,
    listenNumber?_eq_some_iff⟩
  -- every setting is read off the same row of sources
  rw [folded]
  exact ⟨get_foldr_apply Settings.host _ (fun _ _ => rfl) sources _,
    get_foldr_apply Settings.listenNumber _ (fun _ _ => rfl) sources _,
    get_foldr_apply Settings.backlog _ (fun _ _ => rfl) sources _,
    get_foldr_apply (·.storage.mode) _ (fun _ _ => rfl) sources _,
    get_foldr_apply (·.storage.dataFolder) _ (fun _ _ => rfl) sources _,
    get_foldr_apply (·.storage.sync) _ (fun _ _ => rfl) sources _⟩

/-- Settings from everywhere. A number to listen on is in the document, in the file, where blanks
are around it, and in the environment, where the blank before it spoils it. -/
theorem settings_follow_sources_everywhere :
    let document := "port: 4000\nbacklog: 9\n"
    let number := " +8080\t\r\nnot a port"
    let content? (path : String) : Option Bytes :=
      if path = "config.yaml" then some (Text.utf8 document)
      else if path = "port.info" then some (Text.utf8 number)
      else none
    let valueOf? (name : String) : Option String :=
      if name = "RELAY_HOST" then some "::1" else if name = "RELAY_PORT" then some " 9000" else none
    let surroundings : Surroundings :=
      { content?, valueOf?, folderAt := fun _ => .error "", listenAt := fun _ _ => .error "" }
    let arguments : Arguments :=
      { Arguments.standard with flags := { Flags.none with mode? := some "file" } }
    (∀ host ∈ valueOf? "RELAY_HOST", NamesAddress host) ∧
      (∀ mode ∈ valueOf? "RELAY_STORAGE_MODE", NamesStorage mode) ∧
      ((Phase.prepare surroundings arguments).run .start).state.settings
        = ⟨"::1", 8080, 9, ⟨"file", "./relaydata", true⟩⟩ := by
  intro document number content? valueOf? surroundings arguments
  have named : NamesAddress "::1" := rfl
  have hosts : ∀ host ∈ valueOf? "RELAY_HOST", NamesAddress host := by
    intro host set_
    cases set_
    exact named
  have modes : ∀ mode ∈ valueOf? "RELAY_STORAGE_MODE", NamesStorage mode := by
    intro mode set_
    cases set_
  refine ⟨hosts, modes, ?_⟩
  obtain ⟨⟨host, listenNumber, backlog, mode, dataFolder, sync⟩, -⟩ :=
    settings_follow_sources surroundings arguments .start hosts modes
  have stated : sourcesOf surroundings arguments =
      [{ Flags.none with mode? := some "file" }, { Flags.none with host? := some "::1" },
        { Flags.none with listenNumber? := some 8080 },
        { Flags.none with listenNumber? := some 4000, backlog? := some 9 }] := by
    decide +kernel
  rw [stated] at host listenNumber backlog mode dataFolder sync
  exact congr (congr (congr (congrArg Settings.mk host) listenNumber) backlog)
    (congr (congr (congrArg StorageSettings.mk mode) dataFolder) sync)

end MessageRelay.Startup
