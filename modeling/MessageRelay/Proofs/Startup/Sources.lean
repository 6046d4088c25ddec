import MessageRelay.Proofs.Text.DecimalRoundTrip
import MessageRelay.Startup.Layers

/-!
# What the sources of settings state

A source states some of the settings, each with a value, and says nothing of the others: a document
those that it has entries for (`statedIn`), the file with the number to listen on at most that one
(`SourceFile.statedNumber`), the environment those whose variables hold values that make sense
(`statedInEnvironment`), and the command line its flags. A layer puts what its source states in
place of what was there and leaves the rest (`Layer.Puts`). Only the environment takes more than it
states: a host and a kind of storage are taken from it whether they make sense or not
(`takenFromEnvironment`).
-/

set_option autoImplicit false

namespace MessageRelay

/-- A blank at the end makes no difference to a text without the blanks at its ends. -/
theorem Text.trim_concat {c : Char} (h : isBlank c) (cs : List Char) :
    trim (cs ++ [c]) = trim cs := by
  unfold trim trimEnd trimStart
  rw [List.dropWhile_append]
  split
  · rename_i blank
    rw [List.isEmpty_iff] at blank
    rw [blank, List.dropWhile_cons_of_pos h]
    rfl
  · rw [List.reverse_append, List.reverse_singleton, List.singleton_append,
      List.dropWhile_cons_of_pos h]

namespace Startup

open Network (IpAddress)
open Yaml (Document)

/-! ## Documents -/

/-- The place under a name. -/
def entryOf? (name : String) (fields : List (String × Place)) : Option Place :=
  (fields.find? fun field => field.1 == name).map Prod.snd

/-- The place under a name in a mapping. -/
def Place.child? (name : String) (place : Place) : Option Place :=
  place.fields?.bind (entryOf? name)

/-- What stands under a name is found among the fields of a place. -/
theorem Place.child?_of_fields {place : Place} {fields : List (String × Place)}
    (h : place.fields? = some fields) (name : String) :
    place.child? name = entryOf? name fields := by
  rw [child?, h, Option.bind_some]

/-- A setting that could be read is standard if there is no entry for it, and else what the entry
says. -/
theorem fieldOr_eq_some {α : Type} {standard value : α} {read : Place → Option α} {name : String}
    {fields : List (String × Place)} (h : fieldOr standard read name fields = some value) :
    entryOf? name fields = none ∧ value = standard ∨
      ∃ place, entryOf? name fields = some place ∧ read place = some value := by
  rw [entryOf?, ← List.head?_filter]
  unfold fieldOr at h
  split at h
  · rename_i missing
    rw [missing]
    exact .inl ⟨rfl, (Option.some.inj h).symm⟩
  · rename_i name' place single
    rw [single]
    exact .inr ⟨place, rfl, h⟩
  · cases h

/-- A field that is read has the value that stands under its name, or else the standard one. -/
theorem eq_getD_of_fieldOr {α : Type} {standard value : α} {read : Place → Option α} {name : String}
    {fields : List (String × Place)} (h : fieldOr standard read name fields = some value) :
    value = ((entryOf? name fields).bind read).getD standard := by
  obtain ⟨missing, rfl⟩ | ⟨place, found, said⟩ := fieldOr_eq_some h
  · rw [missing]
    rfl
  · rw [found, Option.bind_some, said]
    rfl

/-- What a document states. What is said of the storage stands in a mapping of its own. -/
def statedIn (document : Document) : Flags :=
  let root : Place := ⟨document, document.root⟩
  let storage? := root.child? "storage"
  { host? := (root.child? "host").bind Place.text?
    listenNumber? := ((root.child? "port").bind (Place.natural? 65535)).map UInt16.ofNat
    backlog? := ((root.child? "backlog").bind (Place.natural? 4294967295)).map UInt32.ofNat
    mode? := (storage?.bind (Place.child? "mode")).bind Place.text?
    dataFolder? := (storage?.bind (Place.child? "data_dir")).bind Place.text?
    sync? := (storage?.bind (Place.child? "fsync")).bind Place.truth? }

/-- Each setting of the store is what stands under its name, or else the standard one. -/
theorem StorageSettings.eq_of_ofPlace? {place : Place} {storage : StorageSettings}
    (h : ofPlace? place = some storage) :
    storage.mode = ((place.child? "mode").bind Place.text?).getD standard.mode ∧
      storage.dataFolder = ((place.child? "data_dir").bind Place.text?).getD standard.dataFolder ∧
      storage.sync = ((place.child? "fsync").bind Place.truth?).getD standard.sync := by
  simp only [ofPlace?, Option.bind_eq_bind, Option.bind_eq_some_iff, Option.some.injEq] at h
  obtain ⟨fields, named, mode, hmode, dataFolder, hfolder, sync, hsync, rfl⟩ := h
  simp only [Place.child?_of_fields named]
  exact ⟨eq_getD_of_fieldOr hmode, eq_getD_of_fieldOr hfolder, eq_getD_of_fieldOr hsync⟩

/-- The settings of a document are standard but for what it states. -/
theorem Settings.eq_of_ofDocument? {document : Document} {settings : Settings}
    (h : ofDocument? document = some settings) :
    settings = (statedIn document).apply .standard := by
  simp only [ofDocument?, Option.bind_eq_bind, Option.bind_eq_some_iff, Option.some.injEq] at h
  obtain ⟨fields, named, host, hhost, number, hnumber, backlog, hbacklog, storage, hstorage, rfl⟩ :=
    h
  have child := Place.child?_of_fields named
  have numbered : UInt16.ofNat number
      = (((entryOf? "port" fields).bind (Place.natural? 65535)).map UInt16.ofNat).getD
          standard.listenNumber := by
    rw [eq_getD_of_fieldOr hnumber]
    exact (Option.getD_map UInt16.ofNat _ _).symm
  have backlogged : UInt32.ofNat backlog
      = (((entryOf? "backlog" fields).bind (Place.natural? 4294967295)).map UInt32.ofNat).getD
          standard.backlog := by
    rw [eq_getD_of_fieldOr hbacklog]
    exact (Option.getD_map UInt32.ofNat _ _).symm
  have stored : storage = ((statedIn document).apply .standard).storage := by
    simp only [statedIn, Flags.apply, child]
    obtain ⟨missing, rfl⟩ | ⟨place, found, said⟩ := fieldOr_eq_some hstorage
    · simp only [missing, Option.bind_none, Option.getD_none]
      rfl
    · simp only [found, Option.bind_some]
      obtain ⟨mode, dataFolder, sync⟩ := StorageSettings.eq_of_ofPlace? said
      exact congr (congr (congrArg StorageSettings.mk mode) dataFolder) sync
  rw [numbered, backlogged, stored, eq_getD_of_fieldOr hhost]
  simp only [statedIn, Flags.apply, child]

/-- What the document in a file states, if the settings can be read off it. -/
def SourceFile.statedInDocument (file : SourceFile) : Flags :=
  match file.text?.bind Document.ofText? with
  | some document =>
    if (Settings.ofDocument? document).isSome then statedIn document else .none
  | none => .none

/-! ## Layers -/

/-- What is stated later, and else what was stated before. -/
def Flags.atop (later earlier : Flags) : Flags where
  host? := later.host?.or earlier.host?
  listenNumber? := later.listenNumber?.or earlier.listenNumber?
  backlog? := later.backlog?.or earlier.backlog?
  mode? := later.mode?.or earlier.mode?
  dataFolder? := later.dataFolder?.or earlier.dataFolder?
  sync? := later.sync?.or earlier.sync?

/-- Flags on top of others are applied behind them. -/
theorem Flags.apply_atop (later earlier : Flags) (settings : Settings) :
    (later.atop earlier).apply settings = later.apply (earlier.apply settings) := by
  simp only [apply, atop, Option.getD_or]

/-- A layer that puts what is stated in place of what was there and leaves the rest. -/
def Layer.Puts (layer : Layer) (stated : Flags) : Prop :=
  ∀ before, (layer.run before).result = .ok () ∧ (layer.run before).state = stated.apply before

/-- Two layers in a row put the later flags on top of the earlier ones. -/
theorem Layer.Puts.andThen {first second : Layer} {earlier later : Flags} (h : first.Puts earlier)
    (h' : second.Puts later) : Layer.Puts (first >>= fun _ => second) (later.atop earlier) := by
  intro before
  obtain ⟨result, state⟩ := h before
  rw [Action.run_bind, result, state, Flags.apply_atop]
  exact h' (earlier.apply before)

/-- Whatever was there before, a document leaves the standard settings but for what it states. -/
theorem run_documentLayer (file : SourceFile) (objection : String → String) (before : Settings) :
    ((documentLayer file objection).run before).result = .ok () ∧
      ((documentLayer file objection).run before).state = file.statedInDocument.apply .standard := by
  unfold documentLayer SourceFile.statedInDocument
  cases file.text? with
  | none => exact ⟨rfl, rfl⟩
  | some text =>
    simp only [Option.bind_some, Settings.ofText?]
    cases Document.ofText? text with
    | none => exact ⟨rfl, rfl⟩
    | some document =>
      simp only [Option.bind_some]
      cases read : Settings.ofDocument? document with
      | none => exact ⟨rfl, rfl⟩
      | some settings => exact ⟨rfl, Settings.eq_of_ofDocument? read⟩

/-! ### The file with the number to listen on -/

/-- What a number to listen on looks like: at most a plus sign before its digits. -/
theorem listenNumber?_eq_some_iff (text : List Char) (n : UInt16) :
    listenNumber? text = some n ↔
      ∃ digits, (text = digits ∨ text = '+' :: digits) ∧ digits ≠ [] ∧
        (∀ c ∈ digits, Text.isDigit c) ∧ Nat.ofDigitChars 10 digits 0 = n.toNat := by
  simp only [listenNumber?, Option.map_eq_some_iff, Text.boundedDecimal?_eq_some_iff,
    Text.digits?_eq_some_iff]
  constructor
  · rintro ⟨value, ⟨digits, shape, ⟨some_, all, rfl⟩, fits⟩, rfl⟩
    refine ⟨digits, shape, some_, all, ?_⟩
    rw [UInt16.toNat_ofNat_of_lt' (Nat.lt_succ_of_le fits)]
  · rintro ⟨digits, shape, some_, all, value⟩
    have fits := n.toNat_lt
    exact ⟨n.toNat, ⟨digits, shape, ⟨some_, all, value⟩, by omega⟩, n.ofNat_toNat⟩

/-- What the file with the number to listen on states: the number that its first line is, blanks at
the ends left aside. -/
def SourceFile.statedNumber (file : SourceFile) : Flags :=
  { Flags.none with
    listenNumber? := file.text?.bind fun text =>
      listenNumber? (Text.trim (text.toList.takeWhile (· ≠ '\n'))) }

/-- A carriage return at the end of a line is a blank, so it does not matter whether it is dropped
before the blanks are. -/
theorem trim_firstLine (text : List Char) :
    Text.trim (firstLine text) = Text.trim (text.takeWhile (· ≠ '\n')) := by
  unfold firstLine
  simp only
  split
  · rename_i returned
    obtain ⟨front, line⟩ := List.getLast?_eq_some_iff.1 returned.1
    have blank : Text.isBlank '\r' := by decide
    rw [line, List.dropLast_concat, Text.trim_concat blank]
  · rfl

/-- The layer of the number puts what its file states. -/
theorem numberLayer_puts (file : SourceFile) : (numberLayer file).Puts file.statedNumber := by
  intro before
  unfold numberLayer SourceFile.statedNumber
  cases file.text? with
  | none => exact ⟨rfl, rfl⟩
  | some text =>
    simp only [trim_firstLine, Option.bind_some]
    cases listenNumber? (Text.trim (text.toList.takeWhile (· ≠ '\n'))) <;> exact ⟨rfl, rfl⟩

/-! ### The environment -/

/-- A text that is an address. -/
def NamesAddress (text : String) : Prop :=
  (IpAddress.ofText? text).isSome

/-- A text that is a kind of storage. -/
def NamesStorage (text : String) : Prop :=
  text = "memory" ∨ text = "file"

/-- What the environment states: the values of its variables that make sense. The name of a folder
always does. -/
def statedInEnvironment (valueOf? : String → Option String) : Flags :=
  { Flags.none with
    host? := (valueOf? "RELAY_HOST").filter fun host => (IpAddress.ofText? host).isSome
    listenNumber? := (valueOf? "RELAY_PORT").bind fun text => listenNumber? text.toList
    mode? := (valueOf? "RELAY_STORAGE_MODE").filter fun mode => mode = "memory" ∨ mode = "file"
    dataFolder? := valueOf? "RELAY_DATA_DIR" }

/-- What is taken from the environment: a host and a kind of storage also where they make no sense.
-/
def takenFromEnvironment (valueOf? : String → Option String) : Flags :=
  { statedInEnvironment valueOf? with
    host? := valueOf? "RELAY_HOST"
    mode? := valueOf? "RELAY_STORAGE_MODE" }

/-- A layer for a value that may be stated puts what it puts for the value, or nothing. -/
theorem ifStated_puts {α : Type} (layer : α → Layer) (stated : Option α → Flags)
    (nothing : stated none = .none) (h : ∀ value, (layer value).Puts (stated (some value)))
    (value? : Option α) : (ifStated value? layer).Puts (stated value?) := by
  cases value? with
  | none =>
    rw [nothing]
    exact fun _ => ⟨rfl, rfl⟩
  | some value => exact h value

/-- The layer of the address to listen on puts the number that stands in it, if there is one. -/
theorem listenLayer_puts (text : String) :
    (listenLayer text).Puts { Flags.none with listenNumber? := listenNumber? text.toList } := by
  intro before
  unfold listenLayer
  cases listenNumber? text.toList <;> exact ⟨rfl, rfl⟩

/-- The layer of the environment puts what is taken from it. -/
theorem environmentLayer_puts (valueOf? : String → Option String) :
    (environmentLayer valueOf?).Puts (takenFromEnvironment valueOf?) := by
  have host := ifStated_puts hostLayer (fun host? => { Flags.none with host? }) rfl
    (fun _ _ => ⟨rfl, rfl⟩) (valueOf? "RELAY_HOST")
  have number := ifStated_puts listenLayer (fun text? =>
      { Flags.none with listenNumber? := text?.bind fun text => listenNumber? text.toList }) rfl
    listenLayer_puts (valueOf? "RELAY_PORT")
  have mode := ifStated_puts modeLayer (fun mode? => { Flags.none with mode? }) rfl
    (fun _ _ => ⟨rfl, rfl⟩) (valueOf? "RELAY_STORAGE_MODE")
  have dataFolder := ifStated_puts dataFolderLayer (fun dataFolder? =>
      { Flags.none with dataFolder? }) rfl
    (fun _ _ => ⟨rfl, rfl⟩) (valueOf? "RELAY_DATA_DIR")
  have all := host.andThen (number.andThen (mode.andThen dataFolder))
  rw [environmentLayer]
  simpa [Flags.atop, Flags.none, takenFromEnvironment, statedInEnvironment] using all

end Startup

end MessageRelay
