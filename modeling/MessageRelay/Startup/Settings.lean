import MessageRelay.Network.IpAddress
import MessageRelay.Text.Quoted

/-!
# Settings of the relay

Where the relay listens and where it keeps its data. Not all settings make sense: the host has to be
an address, and the data are kept either in memory or in files.
-/

set_option autoImplicit false

namespace MessageRelay.Startup

open Network (IpAddress)

/-- Where the data are kept. -/
structure StorageSettings where
  mode : String
  /-- The folder of the files. -/
  dataFolder : String
  /-- Whether every write is brought to the disk at once. -/
  sync : Bool
  deriving DecidableEq

/-- The settings of the relay. -/
structure Settings where
  /-- The address to listen on. -/
  host : String
  /-- The number to listen on. -/
  listenNumber : UInt16
  /-- How many connections may wait to be accepted. -/
  backlog : UInt32
  storage : StorageSettings
  deriving DecidableEq

/-- Where the data are kept, once it is known to make sense. -/
inductive StorageMode where
  | memory
  | files (folder : String) (sync : Bool)
  deriving DecidableEq

/-- Settings that do not make sense. -/
inductive SettingsError where
  | badHost (host : String)
  | badMode (mode : String)
  deriving DecidableEq

def SettingsError.message : SettingsError → String
  | .badHost host => s!"Invalid listen host {Text.quoted host}"
  | .badMode mode => s!"Invalid storage mode: {mode}. Use 'memory' or 'file'"

/-- How a place for the data is named. -/
def StorageMode.words : StorageMode → String
  | .memory => "InMemory"
  | .files folder sync => s!"File \x7b data_dir: {Text.quotedPath folder}, fsync: {sync} \x7d"

namespace StorageSettings

/-- What holds where nothing is stated. -/
def standard : StorageSettings where
  mode := "memory"
  dataFolder := "./relaydata"
  sync := true

end StorageSettings

namespace Settings

/-- What holds where nothing is stated. -/
def standard : Settings where
  host := "127.0.0.1"
  listenNumber := 1357
  backlog := 5
  storage := .standard

def address (settings : Settings) : Except SettingsError IpAddress :=
  match IpAddress.ofText? settings.host with
  | some address => .ok address
  | none => .error (.badHost settings.host)

/-- Where the data are kept. -/
def storageMode (settings : Settings) : Except SettingsError StorageMode :=
  if settings.storage.mode = "memory" then .ok .memory
  else if settings.storage.mode = "file" then
    .ok (.files settings.storage.dataFolder settings.storage.sync)
  else .error (.badMode settings.storage.mode)

/-- All settings in one line. -/
def summary (settings : Settings) : String :=
  s!"Relay configuration: listen={settings.host}:{settings.listenNumber}, "
    ++ s!"backlog={settings.backlog}, storage={settings.storage.mode} "
    ++ s!"({Text.quotedPath settings.storage.dataFolder})"

end Settings

end MessageRelay.Startup
