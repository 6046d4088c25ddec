import MessageRelay.Service.Dispatch

/-!
# Serving many connections

Connections are accepted and wait until something arrives on them or their other side closes them.
Then each is served at once, before anything else happens, and closed; so no two are ever served at
the same time. When the relay is told to stop, the connections that still wait are closed unserved.
-/

set_option autoImplicit false

namespace MessageRelay.Service

open Connection
open Log (Notice)
open Protocol
open Store (RelayStore)

/-- What happens to the relay. -/
inductive NetworkEvent (κ : Type) where
  | accepted (connection : κ)
  /-- A connection has something to read, or its other side has closed it. -/
  | ready (connection : κ) (circumstances : Circumstances) (peer : Peer) (incoming : Incoming)
  | shutdown

/-- What became of a connection that was served. -/
structure Served (κ : Type) where
  connection : κ
  result : Except DispatchError ResponseCode
  outbox : Outbox

/-- The relay with its connections. -/
structure Multiplexer (σ κ : Type) where
  store : σ
  /-- The connections that wait, in the order in which they were accepted. -/
  waiting : List κ
  /-- The connections that were served, in that order. -/
  served : List (Served κ)
  stopped : Bool

namespace Multiplexer

variable {σ κ : Type} [RelayStore σ] [DecidableEq κ]

/-- The relay before the first connection. -/
def start (store : σ) : Multiplexer σ κ :=
  ⟨store, [], [], false⟩

/-- What there is to say after a connection was served. -/
def notice (name : κ → String) (served : Served κ) : Notice :=
  match served.result with
  | .ok code => .info s!"Sent {code.name} response to {name served.connection}"
  | .error e => .error s!"Abandoned request from {name served.connection}: {e.message}"

/-- The relay after an event, with what it says about it. -/
def step (relay : Relay) (name : κ → String) (multiplexer : Multiplexer σ κ) :
    NetworkEvent κ → Multiplexer σ κ × List Notice
  | .accepted connection =>
    if multiplexer.stopped then (multiplexer, [])
    else ({ multiplexer with waiting := multiplexer.waiting ++ [connection] }, [])
  | .ready connection circumstances peer incoming =>
    if connection ∈ multiplexer.waiting ∧ ¬ multiplexer.stopped then
      let out := relay.dispatchOn circumstances peer incoming multiplexer.store
      let served : Served κ := ⟨connection, out.result, out.state.outbox⟩
      ({ multiplexer with
          store := out.state.store
          waiting := multiplexer.waiting.erase connection
          served := multiplexer.served ++ [served] },
        out.notices ++ [notice name served])
    else (multiplexer, [])
  | .shutdown =>
    if multiplexer.stopped then (multiplexer, [])
    else ({ multiplexer with stopped := true },
      [.info s!"Relay stopped, closing {multiplexer.waiting.length} idle connections"])

/-- The relay after a sequence of events. -/
def run (relay : Relay) (name : κ → String) (events : List (NetworkEvent κ))
    (multiplexer : Multiplexer σ κ) : Multiplexer σ κ :=
  events.foldl (fun multiplexer event => (multiplexer.step relay name event).1) multiplexer

end Multiplexer

end MessageRelay.Service
