import Tunnel.Client.ChunkStream
import Tunnel.Session.Pump
import Tunnel.Session.Replay

/-!
# Sessions

One client channel joined to one destination. The first chunk of the client opens a connection
to the destination and a pump for it. If that connection ends without a byte while the client
is open, the session goes on once more over a connection through the fallback host, on which it
first replays what it kept.

## Main definitions

* `Engine` — the settings that sessions run with.
* `Session` — where a session is, and what it counts.
* `Report` — what is told of a session at its end.
* `World` — a session with everything that it works on.
-/

namespace Tunnel

/-- The settings that sessions run with. -/
structure Engine where
  fallbackHost : String
  /-- Capacity of the queues of a connection, in chunks. -/
  capacity : Nat := 64
  /-- How many client bytes are kept for replay; zero keeps no byte. -/
  replayLimit : Nat := 65536
  deriving DecidableEq, Repr, Inhabited

namespace Engine

/-- The connector's settings in words. -/
def describeConnector (g : Engine) : String :=
  s!"OutboundConnector \x7b fallback_host: {Text.quote g.fallbackHost}, capacity: {g.capacity}, .. \x7d"

/-- All settings in words. -/
def describe (g : Engine) : String :=
  s!"RelayEngine \x7b connector: {g.describeConnector}, replay_limit: {g.replayLimit} \x7d"

end Engine

/-- The stages of a session's life, in order. -/
inductive Stage
  /-- No connection yet. -/
  | awaitingFirstChunk
  /-- Over the first connection. -/
  | connected
  /-- Over the fallback connection. -/
  | retrying
  | done
  deriving DecidableEq, Repr, Inhabited

def Stage.name : Stage → String
  | .awaitingFirstChunk => "AwaitingFirstChunk"
  | .connected => "Connected"
  | .retrying => "Retrying"
  | .done => "Done"

/-- What is told of a session at its end. -/
structure Report where
  destination : Destination
  stage : Stage
  /-- Whether any connection was opened. -/
  connected : Bool
  /-- Whether the fallback was used. -/
  retried : Bool
  /-- Chunks replayed onto the fallback connection. -/
  replayedChunks : Nat
  /-- Client chunks written to a connection. -/
  chunksToRemote : Nat
  /-- Whether the last connection delivered any chunk. -/
  hasIncomingData : Bool
  /-- Whether the close of the client was requested. -/
  closeRequested : Bool
  deriving DecidableEq, Repr, Inhabited

/-- Where the task of a session is. -/
inductive Session.Phase
  /-- It waits for a client chunk or the end of its pump, whichever comes first. -/
  | selecting
  /-- It writes a chunk to the active connection; `kept` if the chunk will be replayed should
  the write fail. -/
  | writing (chunk : Bytes) (kept : Bool)
  /-- It waits for the terminal outcome of the first connection. -/
  | leavingFirst
  /-- It replays chunks onto a connection that is not active yet. -/
  | replaying (connection : Nat) (rest : List Bytes)
  | ended (report : Report)
  | aborted
  | crashed
  deriving DecidableEq, Repr, Inhabited

structure Session where
  phase : Session.Phase := .selecting
  stage : Stage := .awaitingFirstChunk
  /-- The number of the active connection. -/
  active : Option Nat := none
  /-- The number of the pump whose end is awaited. -/
  pump : Option Nat := none
  /-- Whether the client's chunks are still taken. -/
  clientOpen : Bool := true
  connected : Bool := false
  retried : Bool := false
  replay : ReplayBuffer
  replayedChunks : Nat := 0
  chunksToRemote : Nat := 0
  hasIncomingData : Bool := false
  /-- Whether the task was told to stop. -/
  abortRequested : Bool := false
  deriving DecidableEq, Repr, Inhabited

/-- A session with everything that it works on. -/
structure World (σ : Type) extends Plumbing σ where
  engine : Engine
  chunks : ChunkStream
  session : Session

namespace World

/-- The world in which a session has just started. -/
def start {σ : Type} (engine : Engine) (destination : Destination) (client : σ)
    (eventCapacity : Nat) (peers : List Peer) : World σ where
  gate := { client, destination }
  transport := { peers }
  trace := [.log .info destination "relay session started"]
  engine
  chunks := { events := { capacity := eventCapacity } }
  session := { replay := { limit := engine.replayLimit } }

end World

end Tunnel
