import Tunnel.Server.Upgrade
import Tunnel.Session.Settle
import Tunnel.WebSocket.Channel

/-!
# Sessions of a server

An upgraded connection: a session whose client is a WebSocket channel. The reader feeds the
queue that the session takes its events from, and the writer ends once the session and its pumps
no longer hold the channel.

## Main definitions

* `Served.accept?` — the session of an upgraded connection.
* `Served.step?` — a step of the session, of its socket's reader or of its writer.
* `Served.settle` — all of them, run to rest.
-/

namespace Tunnel

open WebSocket

/-- A session over a WebSocket. -/
structure Served where
  world : World Channel
  protocol : Protocol := {}
  reader : Reader := .reading
  closeFired : Bool := false

namespace Served

/-- The session to a destination over a socket that was just upgraded. -/
def accept? (server : Server) (engine : Engine) (destination : Destination) (peers : List Peer) :
    Option Served :=
  (Feed.accept? server.eventCapacity).map fun feed =>
    { world := World.start engine destination feed.channel feed.events.capacity peers }

/-- The socket of the session. -/
def socket (s : Served) : Socket :=
  { feed := { channel := s.world.gate.client, events := s.world.chunks.events
              reader := s.reader, closeFired := s.closeFired }
    protocol := s.protocol }

/-- The session after something happened at its socket. -/
def withSocket (s : Served) (result : Socket × List Happening) : Served :=
  let (socket, happened) := result
  let gate := { s.world.gate with client := socket.feed.channel }
  let chunks := { s.world.chunks with events := socket.feed.events }
  { world := { s.world with gate, chunks }.note happened
    protocol := socket.protocol, reader := socket.feed.reader, closeFired := socket.feed.closeFired }

/-- Whether the task of the session has ended. -/
def isOver (s : Served) : Bool :=
  match s.world.session.phase with
  | .ended _ | .aborted | .crashed => true
  | .selecting | .writing _ _ | .leavingFirst | .replaying _ _ => false

/-- Whether a pump still holds the channel. -/
def pumping (s : Served) : Bool :=
  s.world.pumps.any fun p => match p.phase with
    | .running | .settling _ => true
    | .ended _ | .crashed _ => false

inductive Task
  | world (t : World.Task)
  | reader
  | writer
  /-- The last holder of the channel lets go of it. -/
  | abandon
  deriving DecidableEq, Repr, Inhabited

def step? (s : Served) : Task → Option Served
  | .world t => (s.world.step? t).map fun world => { s with world }
  | .reader => s.socket.read?.map s.withSocket
  | .writer => s.socket.write?.map s.withSocket
  | .abandon =>
    let client := s.world.gate.client
    if s.isOver ∧ ¬s.pumping ∧ ¬client.abandoned then
      some { s with world := { s.world with gate := { s.world.gate with client := client.abandon } } }
    else none

/-- The client's bytes arrive. -/
def arrive (s : Served) (bytes : Bytes) : Served :=
  { s with protocol := { s.protocol with buffer := s.protocol.buffer ++ bytes } }

def lanes (s : Served) : List (List Task) :=
  s.world.lanes.map (·.map .world) ++ [[.reader], [.abandon, .writer]]

def scheduler : Scheduler Served Task := { step?, lanes }

/-- Runs the session, its socket and the tasks beside it until none of them can step. -/
def settle (s : Served) : Served :=
  let bound := 16 * s.world.work + 16 * s.socket.work
  scheduler.play bound bound s

end Served

end Tunnel
