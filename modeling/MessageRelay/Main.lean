import MessageRelay.Service.Multiplexer
import MessageRelay.Startup.Launch
import MessageRelay.Timestamp.Clock
import Std.Async.Signal
import Std.Async.TCP
import Std.Time.DateTime.Timestamp

/-!
# The relay as a program

All that touches the system: files, the environment, connections, the clock and the output. What is
to be done is always worked out first by the definitions of the other modules, on the values read so
far; then it is carried out. When a file or a connection turns out not to take what was worked out,
the same is worked out once more with that fault known.
-/

set_option autoImplicit false

namespace MessageRelay.Program

open Connection (Arrival Incoming Peer)
open Network (IpAddress)
open Protocol (ClientId)
open Service (Circumstances Multiplexer Relay)
open Startup
open Std.Async (Async)
open Std.Async.TCP.Socket (Client Server)
open Std.Net (SocketAddress)
open Store (Backend DataFolder)

/-- What the program says about itself when it is asked. -/
def usage : String :=
  "Store-and-forward message relay\n\nUsage: relay [OPTIONS]\n\n"
    ++ "Options: --config, --port-file, --host, --port, --backlog, --storage-mode,\n"
    ++ "  --storage-data-dir, --storage-fsync, --log-level, --help, --version"

/-! ## Clock, chance and log -/

def now : IO Timestamp := do
  let clock ← Std.Time.Timestamp.now
  match Timestamp.ofClock? clock.toNanosecondsSinceUnixEpoch.val.toNat with
  | some moment => return moment
  | none => throw (IO.userError "the clock is beyond the calendar")

/-- What the next connection finds. -/
def circumstances : IO Circumstances := do
  let candidates ← (List.range 4).mapM fun _ => do
    return ClientId.ofBytes (← IO.getRandomBytes 16).data.toList
  return { now := ← now, candidates }

/-- Where notices are shown. -/
structure Console where
  style : Log.Style
  threshold : Log.Threshold

def Console.show (console : Console) (notices : List Log.Notice) : IO Unit := do
  let output ← IO.getStdout
  for notice in notices do
    if console.threshold.admits notice.severity then
      output.putStrLn ((Log.Event.ofNotice notice).line console.style (← now).clockText)
  output.flush

/-! ## Files -/

/-- The content of a file, if there is one. -/
def content? (path : String) : IO (Option Bytes) := do
  try
    return some (← IO.FS.readBinFile path).data.toList
  catch
    | .noFileOrDirectory _ _ _ => return none
    | e => throw e

/-- Puts a file in place of the one that is there. -/
def replaceFile (path : String) (content : Bytes) : IO Unit := do
  let beside := path ++ ".tmp"
  IO.FS.writeBinFile beside ⟨content.toArray⟩
  IO.FS.rename beside path

/-- Writes what a file has more than before, or all of it if it was not only continued. -/
def continueFile (path : String) (before after : Bytes) : IO Unit := do
  if before.isPrefixOf after then
    let handle ← IO.FS.Handle.mk path .append
    handle.write ⟨(after.drop before.length).toArray⟩
    handle.flush
  else
    replaceFile path after

/-- The folder at a path, which is made if need be. -/
def folderAt (path : String) : IO DataFolder := do
  if !path.isEmpty then IO.FS.createDirAll path
  let folder := DataFolder.empty path
  return { folder with
    snapshot? := ← content? folder.snapshotPath
    journal? := ← content? folder.journalPath }

/-- Brings the files of a folder from one content to another. -/
def carryOut (before after : DataFolder) : IO Unit := do
  if after.snapshot? ≠ before.snapshot? then
    if let some content := after.snapshot? then replaceFile after.snapshotPath content
  if after.journal? ≠ before.journal? then
    match before.journal?, after.journal? with
    | some old, some new => continueFile after.journalPath old new
    | _, some new => replaceFile after.journalPath new
    | _, none => return ()

/-- Brings the files of a store from one content to another. -/
def carryOutStore (before after : Backend) : IO Unit :=
  match before.folder?, after.folder? with
  | some before, some after => carryOut before after
  | _, _ => return ()

/-- The store as it is when no file can be written. -/
def blocked (store : Backend) : Backend :=
  store.withFolder fun folder => { folder with
    snapshotFaults := List.replicate 64 true
    rooms := List.replicate 64 0 }

/-- The store as it is when files can be written. -/
def unblocked (store : Backend) : Backend :=
  store.withFolder fun folder => { folder with snapshotFaults := [], rooms := [] }

/-! ## Connections -/

/-- Stands for input that has not arrived yet. -/
def later : Arrival := .fault (.other "not yet received")

/-- An address in the library's form. -/
def addressOf : Std.Net.IPAddr → Option IpAddress
  | .v4 address => IpAddress.ofText? address.toString
  | .v6 address => IpAddress.ofText? address.toString

/-- Address and number in one text. -/
def placeOf : SocketAddress → String
  | .v4 ⟨address, number⟩ => nameOf (.v4 address) number
  | .v6 ⟨address, number⟩ => nameOf (.v6 address) number
where
  /-- An address with a number. -/
  nameOf (address : Std.Net.IPAddr) (number : UInt16) : String :=
    ((addressOf address).map (·.withNumber (toString number))).getD ""

/-- The address and number to listen on, in the system's form. -/
def socketAddressOf (address : IpAddress) (number : UInt16) : SocketAddress :=
  match address with
  | .v4 a b c d => .v4 ⟨.ofParts a b c d, number⟩
  | .v6 groups h => .v6 ⟨⟨⟨groups.toArray, by simpa using h⟩⟩, number⟩

/-- Reads one more chunk, or that there is none. -/
def receive (client : Client) (room : Nat) : Async Arrival := do
  try
    match ← client.recv? (UInt64.ofNat room) with
    | some bytes => return .chunk bytes.data.toList
    | none => return .chunk []
  catch e => return .fault (.other (toString e))

/-- Sends bytes; gives the fault if they do not go out. -/
def send (client : Client) (bytes : Bytes) : Async (Option Connection.SocketFault) := do
  try
    if !bytes.isEmpty then client.send ⟨bytes.toArray⟩
    return none
  catch e => return some (.other (toString e))

/-- What happens while the relay serves. -/
inductive Occurrence where
  | interrupted
  | accepted (result : Except String Client)
  /-- Something arrived on the connection with a number. -/
  | arrived (number : Nat) (arrival : Arrival)

/-- The next interruption. -/
def interruption : IO (Task Occurrence) := do
  let waiter ← Std.Async.Signal.Waiter.mk .sigint true
  return Task.map (fun _ => .interrupted) (← waiter.wait)

/-- The next connection. -/
def acceptance (server : Server) : IO (Task Occurrence) := do
  return Task.map (fun result => .accepted (result.mapError toString)) (← server.accept.toIO)

/-- What arrives first on a connection. -/
def firstArrival (client : Client) (room number : Nat) : IO (Task Occurrence) := do
  let occurrence : Except IO.Error Arrival → Occurrence
    | .ok arrival => .arrived number arrival
    | .error e => .arrived number (.fault (.other (toString e)))
  return Task.map occurrence (← (receive client room).toIO)

/-- A connection that waits to be served. -/
structure Waiting where
  number : Nat
  client : Client
  name : String
  arrival : Task Occurrence

/-- The state of the program while it serves. -/
structure Serving where
  relay : Relay
  console : Console
  store : Backend
  /-- The connections that wait, oldest first. -/
  waiting : List Waiting

namespace Serving

/-- The relay after a connection was served whose other side takes bytes as `peer` does. -/
def after (serving : Serving) (store : Backend) (circumstances : Circumstances) (peer : Peer)
    (incoming : Incoming) :
    Outcome (Service.Cycle Backend) Service.DispatchError Protocol.ResponseCode :=
  serving.relay.dispatchOn circumstances peer incoming store

/-- Reads until everything that the request needs has arrived. -/
partial def gather (serving : Serving) (circumstances : Circumstances) (client : Client)
    (incoming : Incoming) : IO Incoming := do
  let out := serving.after serving.store circumstances .willing (incoming ++ [later])
  if out.state.intake.incoming.isEmpty then
    let arrival ← (receive client serving.relay.packetSize).block
    let incoming := incoming ++ [arrival]
    match arrival with
    | .chunk (_ :: _) => serving.gather circumstances client incoming
    | _ => return incoming
  else
    return incoming

/-- Serves a connection on which something has arrived. What happens to the store before the
response is written down before the response goes out, and the rest after it. -/
def serve (serving : Serving) (connection : Waiting) (first : Arrival) : IO Serving := do
  let circumstances ← circumstances
  let incoming ← match first with
    | .chunk (_ :: _) => serving.gather circumstances connection.client [first]
    | _ => pure [first]
  let unsent (fault : Connection.SocketFault) : Peer := .limited none (some 0) fault none
  let early (store : Backend) := serving.after store circumstances
    (unsent (.other "not sent")) incoming
  let store ← try
    carryOutStore serving.store (early serving.store).state.store
    pure serving.store
  catch _ => pure (blocked serving.store)
  let whole := serving.after store circumstances .willing incoming
  let out ← match ← (send connection.client whole.state.outbox.taken).block with
    | none => pure whole
    | some fault => pure (serving.after store circumstances (unsent fault) incoming)
  let before := (early store).state.store
  let after ← try
    carryOutStore before out.state.store
    pure out.state.store
  catch _ => pure before
  let served : Service.Served String := ⟨connection.name, out.result, out.state.outbox⟩
  serving.console.show (out.notices ++ [Multiplexer.notice id served])
  try connection.client.shutdown.block
  catch fault => serving.console.show [.debug s!"Shutdown of {connection.name} failed: {fault}"]
  return { serving with store := unblocked after }

/-- Serves until it is interrupted; gives the number of connections that still wait. The number of
connections so far is the number of the next one. -/
partial def loop (serving : Serving) (server : Server) (interruption acceptance : Task Occurrence)
    (connections : Nat) : IO Nat := do
  let tasks := interruption :: acceptance :: serving.waiting.map (·.arrival)
  match ← IO.waitAny tasks (by simp [tasks]) with
  | .interrupted => return serving.waiting.length
  | .accepted (.error reason) =>
    serving.console.show [.warn s!"Failed to accept connection: {reason}"]
    serving.loop server interruption (← Program.acceptance server) connections
  | .accepted (.ok client) =>
    let name := placeOf (← client.getPeerName)
    serving.console.show [.debug s!"Accepted connection from {name}"]
    let arrival ← firstArrival client serving.relay.packetSize connections
    let connection : Waiting := ⟨connections, client, name, arrival⟩
    let serving := { serving with waiting := serving.waiting ++ [connection] }
    serving.loop server interruption (← Program.acceptance server) (connections + 1)
  | .arrived number arrival =>
    let isThis (connection : Waiting) : Bool := connection.number == number
    let serving ← match serving.waiting.find? isThis with
      | some connection => serving.serve connection arrival
      | none => pure serving
    let serving := { serving with
      waiting := serving.waiting.filter fun connection => !isThis connection }
    serving.loop server interruption acceptance connections

end Serving

/-! ## The program -/

/-- Carries out a phase: shows its notices and gives its value, or ends the program. -/
def perform {α : Type} (console : Console) (phase : Phase α) (progress : Progress) :
    ExceptT StartError IO (α × Progress) := do
  let out := phase.run progress
  console.show out.notices
  match out.result with
  | .ok a => return (a, out.state)
  | .error fault => throw fault

/-- The result of work on the system, with the words for its failure. -/
def attempted {α : Type} (work : IO α) : IO (Except String α) := do
  try return .ok (← work)
  catch e => return .error (toString e)

/-- What a relay finds outside of itself before it opens its store. -/
def surroundings (arguments : Arguments) : IO Surroundings := do
  let paths := [arguments.documentPath, arguments.numberPath]
  let files ← paths.mapM fun path => do return (path, (← attempted (content? path)).toOption.join)
  let names := ["RELAY_HOST", "RELAY_PORT", "RELAY_STORAGE_MODE", "RELAY_DATA_DIR"]
  let values ← names.mapM fun name => do return (name, ← IO.getEnv name)
  return {
    content? := fun path => (Table.find? path files).join
    valueOf? := fun name => (Table.find? name values).join
    folderAt := fun _ => .error ""
    listenAt := fun _ _ => .error "" }

/-- Starts the relay and serves until it is interrupted. -/
def run (console : Console) (arguments : Arguments) : ExceptT StartError IO Unit := do
  let found ← surroundings arguments
  let (plan, progress) ← perform console (Phase.prepare found arguments) .start
  let folder ← match plan.storage with
    | .memory => pure (.error "")
    | .files path _ => attempted (folderAt path)
  let (store, progress) ← perform console
    (Phase.openStore { found with folderAt := fun _ => folder } plan.storage) progress
  if let .ok folder := folder then
    if let .error reason ← attempted (carryOutStore
      (.files { folder, directory := .empty, mailbox := .empty }) store) then
      throw (.folder reason)
  let server ← Server.mk
  let bound ← attempted do
    server.bind (socketAddressOf plan.address plan.listenNumber)
    server.listen plan.backlog
    let number := match ← server.getSockName with
      | .v4 ⟨_, number⟩ => number
      | .v6 ⟨_, number⟩ => number
    return toString number
  let (_, progress) ← perform console
    (Phase.listen { found with listenAt := fun _ _ => bound } plan) progress
  let serving : Serving := { relay := .standard, console, store, waiting := [] }
  let idle ← serving.loop server (← interruption) (← acceptance server) 0
  let _ ← perform console (Phase.finish idle) progress

end MessageRelay.Program

/-- The relay. -/
def main (words : List String) : IO UInt32 := do
  match MessageRelay.Startup.Arguments.ofWords words with
  | .error .inquiry =>
    IO.println MessageRelay.Program.usage
    return 0
  | .error .misuse =>
    IO.eprintln MessageRelay.Program.usage
    return 2
  | .ok arguments =>
    let result ← match MessageRelay.Log.Threshold.ofText arguments.threshold with
      | .error fault => pure (.error (.threshold fault))
      | .ok threshold =>
        let style := MessageRelay.Startup.logStyle (← IO.getEnv "TERM")
        (MessageRelay.Program.run ⟨style, threshold⟩ arguments).run
    match result with
    | .ok () => return 0
    | .error fault =>
      IO.eprint fault.report
      return 1
