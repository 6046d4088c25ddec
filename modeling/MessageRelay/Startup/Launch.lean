import MessageRelay.Log.Line
import MessageRelay.Log.Threshold
import MessageRelay.Protocol.Sizes
import MessageRelay.Startup.CommandLine
import MessageRelay.Store.Backend

/-!
# From the start to the end

A relay gathers its settings, opens its store, listens, and serves until it is interrupted. A fault
on the way ends it at once. `Phase.prepare` is what happens before anything outside is touched, and
`Phase.course` is the whole of it for a relay that nobody talks to.
-/

set_option autoImplicit false

namespace MessageRelay.Startup

open Log (Notice)
open Network (IpAddress)
open Store (Backend DataFolder Durable StoreError)

def version : String := "0.1.0"

/-- Why a relay does not come to serve. -/
inductive StartError where
  | threshold (fault : Log.ThresholdError)
  | settings (fault : SettingsError)
  /-- The folder of the store cannot be made. -/
  | folder (reason : String)
  | store (fault : StoreError)
  /-- The address cannot be listened at. -/
  | listen (reason : String)
  deriving DecidableEq

namespace StartError

def message : StartError → String
  | .threshold fault => fault.message
  | .settings fault => fault.message
  | .folder reason => s!"I/O error: {reason}"
  | .store fault => fault.message
  | .listen reason => reason

/-- The words for what lies behind a fault. -/
def cause? : StartError → Option String
  | .threshold .unknownLevel => some Log.ThresholdError.unknownLevel.message
  | .settings (.badHost _) => some "invalid IP address syntax"
  | .folder reason => some reason
  | _ => none

/-- A fault as it is reported. -/
def report (fault : StartError) : String :=
  let cause := match fault.cause? with
    | some cause => s!"\n\nCaused by:\n    {cause}"
    | none => ""
  s!"Error: {fault.message}{cause}\n"

end StartError

/-- What a relay finds outside of itself. -/
structure Surroundings where
  /-- The content of the file at a path. -/
  content? : String → Option Bytes
  /-- The value of a variable of the environment. -/
  valueOf? : String → Option String
  /-- The folder at a path, which is made if need be, or why there cannot be one. -/
  folderAt : String → Except String DataFolder
  /-- How the number to listen on is shown once the relay listens, or why it cannot listen. -/
  listenAt : IpAddress → UInt16 → Except String String
  /-- The words for what is wrong with a document off which no settings are read. -/
  objection : String → String := Settings.objection

/-- How far a relay has come. -/
structure Progress where
  settings : Settings
  /-- The folder of the store, if it is kept in files. -/
  folder? : Option DataFolder

/-- A relay that has just begun. -/
def Progress.start : Progress :=
  ⟨.standard, none⟩

/-- A part of the life of a relay. -/
abbrev Phase (α : Type) : Type := Action Progress StartError α

/-- What a relay knows before it touches anything outside. -/
structure Plan where
  storage : StorageMode
  address : IpAddress
  listenNumber : UInt16
  backlog : UInt32

namespace Phase

/-- Says what happens as it should. -/
def say (text : String) : Phase Unit :=
  Action.tell (.info text)

/-- Says what happens as it should in a component. -/
def sayIn (component text : String) : Phase Unit :=
  Action.tell ⟨.info, some component, text⟩

/-- Takes in the settings of a layer. -/
def settle (layer : Layer) : Phase Unit :=
  (layer.mapError fun fault => nomatch fault).on Progress.settings
    fun settings progress => { progress with settings }

/-- Gathers the settings. -/
def prepare (surroundings : Surroundings) (arguments : Arguments) : Phase Plan := do
  say s!"Starting relay v{version} (protocol version {Protocol.serverVersion})"
  let file (path : String) : SourceFile := ⟨path, surroundings.content? path⟩
  settle (loadLayer (file arguments.documentPath) (file arguments.numberPath)
    surroundings.valueOf? surroundings.objection)
  settle (Action.change arguments.flags.apply)
  let progress ← Action.look
  let settings := progress.settings
  let storage ← Action.ofExcept (settings.storageMode.mapError .settings)
  let address ← Action.ofExcept (settings.address.mapError .settings)
  return ⟨storage, address, settings.listenNumber, settings.backlog⟩

def openStore (surroundings : Surroundings) (storage : StorageMode) : Phase Backend := do
  sayIn "storage" s!"Opening {storage.words} storage"
  match storage with
  | .memory => return .memory .empty
  | .files path _ =>
    let folder ← Action.ofExcept ((surroundings.folderAt path).mapError .folder)
    let store ← (Durable.openFolder.mapError StartError.store).on (fun _ => folder)
      fun folder progress => { progress with folder? := some folder }
    return .files store

def listen (surroundings : Surroundings) (plan : Plan) : Phase Unit := do
  let number ← Action.ofExcept
    ((surroundings.listenAt plan.address plan.listenNumber).mapError .listen)
  let place := plan.address.withNumber number
  say s!"Relay listening on {place}"
  sayIn "server" s!"Serving on {place}"

/-- Ends when the relay is interrupted while some connections have sent nothing yet. -/
def finish (idle : Nat) : Phase Unit := do
  say "Received Ctrl-C, shutting down"
  say s!"Relay stopped, closing {idle} idle connections"
  say "Relay shut down"

/-- The life of a relay that nobody talks to. -/
def course (surroundings : Surroundings) (arguments : Arguments) : Phase Unit := do
  let plan ← prepare surroundings arguments
  let _ ← openStore surroundings plan.storage
  listen surroundings plan
  finish 0

end Phase

/-- How the lines of the log are made for a terminal. -/
def logStyle (terminal? : Option String) : Log.Style where
  service := "relay"
  coloured := Log.colouredFor terminal?

/-- What a relay leaves behind. -/
structure Report where
  exitCode : UInt8
  /-- The notices that were shown. -/
  notices : List Notice
  /-- What was reported as a fault. -/
  errors : String
  /-- The folder of the store, if it is kept in files. -/
  folder? : Option DataFolder

/-- The report of a relay that was started with some arguments and then interrupted. A threshold
that does not make sense is found before there is anything to show. -/
def Report.ofArguments (surroundings : Surroundings) (arguments : Arguments) : Report :=
  match Log.Threshold.ofText arguments.threshold with
  | .error fault => ⟨1, [], (StartError.threshold fault).report, none⟩
  | .ok threshold =>
    let out := (Phase.course surroundings arguments).run .start
    let notices := out.notices.filter fun notice => threshold.admits notice.severity
    match out.result with
    | .ok () => ⟨0, notices, "", out.state.folder?⟩
    | .error fault => ⟨1, notices, fault.report, out.state.folder?⟩

end MessageRelay.Startup
