import MessageRelay.Action
import MessageRelay.Startup.SettingsDocument
import MessageRelay.Text.Blank
import MessageRelay.Text.Decimal
import MessageRelay.Text.Utf8

/-!
# Where settings come from

Settings come from a document, from a file whose first line is the number to listen on, from the
environment and from the command line. Each later source replaces what it states and leaves the rest
as it was. Every source but the last says what it did.
-/

set_option autoImplicit false

namespace MessageRelay.Startup

open Log (Notice)

/-- A file by its path and its content, if it could be read. -/
structure SourceFile where
  path : String
  content? : Option Bytes

/-- The text of a file. A file that is no text counts as one that could not be read. -/
def SourceFile.text? (file : SourceFile) : Option String :=
  file.content?.bind Text.ofUtf8

/-- A change of settings, with what there is to say about it. -/
abbrev Layer : Type := Action Settings Empty Unit

/-- The number that a text is, which may carry a plus sign. -/
def listenNumber? (text : List Char) : Option UInt16 :=
  (Text.boundedDecimal? 65535 text).map UInt16.ofNat

/-- The first line of a text, without the carriage return at its end. -/
def firstLine (text : List Char) : List Char :=
  let line := text.takeWhile (· ≠ '\n')
  if line.getLast? = some '\r' ∧ line.length < text.length then line.dropLast else line

/-- What a document states, or else the standard settings. The words for what is wrong with a document
are those of whoever reads it. -/
def documentLayer (file : SourceFile) (objection : String → String := Settings.objection) : Layer :=
  match file.text? with
  | none => do
    Action.tell (.warn s!"Config file {Text.quotedPath file.path} not found, using defaults")
    Action.replace .standard
  | some text =>
    match Settings.ofText? text with
    | some settings => do
      Action.tell (.info s!"Loaded configuration from {Text.quotedPath file.path}")
      Action.replace settings
    | none => do
      Action.tell (.warn (s!"Failed to parse config file {Text.quotedPath file.path}, "
        ++ s!"using defaults: {objection text}"))
      Action.replace .standard

/-- The number to listen on from the first line of a file. -/
def numberLayer (file : SourceFile) : Layer :=
  match file.text? with
  | none => Action.tell (.debug s!"No port file at {Text.quotedPath file.path}")
  | some text =>
    match listenNumber? (Text.trim (firstLine text.toList)) with
    | some n => do
      Action.change fun settings => { settings with listenNumber := n }
      Action.tell (.info s!"Port {n} read from {Text.quotedPath file.path}")
    | none => do
      let settings ← Action.look
      Action.tell (.warn (s!"Port file {Text.quotedPath file.path} does not start with a valid "
        ++ s!"port, keeping {settings.listenNumber}"))

/-- The host from the environment. -/
def hostLayer (host : String) : Layer := do
  Action.tell (.info s!"Host overridden by environment: {host}")
  Action.change fun settings => { settings with host }

/-- The number to listen on from the environment. -/
def listenLayer (text : String) : Layer :=
  match listenNumber? text.toList with
  | some n => do
    Action.change fun settings => { settings with listenNumber := n }
    Action.tell (.info s!"Port overridden by environment: {n}")
  | none => Action.tell (.warn s!"Ignoring invalid RELAY_PORT {Text.quoted text}")

/-- The kind of storage from the environment. -/
def modeLayer (mode : String) : Layer := do
  Action.tell (.info s!"Storage mode overridden by environment: {mode}")
  Action.change fun settings => { settings with storage.mode := mode }

/-- The folder for the data from the environment. -/
def dataFolderLayer (folder : String) : Layer := do
  Action.tell (.info s!"Data directory overridden by environment: {folder}")
  Action.change fun settings => { settings with storage.dataFolder := folder }

/-- A layer for a value that may be stated. -/
def ifStated {α : Type} (value? : Option α) (layer : α → Layer) : Layer :=
  match value? with
  | some value => layer value
  | none => return ()

/-- What the environment states. -/
def environmentLayer (valueOf? : String → Option String) : Layer := do
  ifStated (valueOf? "RELAY_HOST") hostLayer
  ifStated (valueOf? "RELAY_PORT") listenLayer
  ifStated (valueOf? "RELAY_STORAGE_MODE") modeLayer
  ifStated (valueOf? "RELAY_DATA_DIR") dataFolderLayer

/-- What the command line states. -/
structure Flags where
  host? : Option String
  listenNumber? : Option UInt16
  backlog? : Option UInt32
  mode? : Option String
  dataFolder? : Option String
  sync? : Option Bool
  deriving DecidableEq

namespace Flags

def none : Flags :=
  ⟨.none, .none, .none, .none, .none, .none⟩

/-- The settings with what the command line states. -/
def apply (flags : Flags) (settings : Settings) : Settings where
  host := flags.host?.getD settings.host
  listenNumber := flags.listenNumber?.getD settings.listenNumber
  backlog := flags.backlog?.getD settings.backlog
  storage := {
    mode := flags.mode?.getD settings.storage.mode
    dataFolder := flags.dataFolder?.getD settings.storage.dataFolder
    sync := flags.sync?.getD settings.storage.sync }

end Flags

/-- The settings from all sources but the command line, which are then stated in one line. -/
def loadLayer (document number : SourceFile) (valueOf? : String → Option String)
    (objection : String → String := Settings.objection) : Layer := do
  documentLayer document objection
  numberLayer number
  environmentLayer valueOf?
  let settings ← Action.look
  Action.tell (.info settings.summary)

end MessageRelay.Startup
