import Tunnel.Remote.Connection
import Tunnel.Client.ChunkStream

/-!
# Transport

All connections that were opened, and the peers that answer dials. Dials are numbered in the
order in which they are made, and dial number `n` meets peer number `n`.

## Main definitions

* `Transport.open?` — opens a connection, which fails only for an impossible capacity.
* `Transport.offer?`, `Transport.receive` — a connection's queues, by its number.
* `Transport.step?` — the steps of the drivers.
-/

namespace Tunnel

structure Transport where
  peers : List Peer
  dials : Nat := 0
  connections : List Connection := []

/-- The parts of a driver that step on their own. -/
inductive Driver.Part
  | dial | connect | read | write | discard
  deriving DecidableEq, Repr, Inhabited

namespace Transport

/-- Peer number `n`; beyond the last there is nobody. -/
def peer (t : Transport) (n : Nat) : Peer := t.peers.getD n .absent

def endpoint (t : Transport) (n : Nat) : Endpoint := (t.peer n).endpoint

def setPeer (t : Transport) (n : Nat) (p : Peer) : Transport :=
  { t with peers := t.peers.set n p }

def setEndpoint (t : Transport) (n : Nat) (e : Endpoint) : Transport :=
  { t with peers := t.peers.modify n fun p => { p with endpoint := e } }

def setConnection (t : Transport) (i : Nat) (c : Connection) : Transport :=
  { t with connections := t.connections.set i c }

/-- Changes connection number `i`, if it exists. -/
def modifyConnection (t : Transport) (i : Nat) (f : Connection → Connection) : Transport :=
  { t with connections := t.connections.modify i f }

/-- Whether some driver waits for the answer to dial number `n`. -/
def awaits (t : Transport) (n : Nat) : Bool :=
  t.connections.any fun c => match c.driver with
    | .dialing m => m == n
    | _ => false

/-- Opens a connection, and gives its number. No queue can be made with an impossible
capacity. -/
def open? (t : Transport) (d : Destination) (capacity : Nat) :
    Option (Nat × Transport × List Happening) :=
  let c := Connection.fresh d capacity
  if validCapacity c.capacity then
    let i := t.connections.length
    some (i, { t with connections := t.connections ++ [c] }, [.opened i d])
  else none

/-- Writes a chunk to connection number `i`; `none` if the write must wait. -/
def offer? (t : Transport) (i : Nat) (chunk : Bytes) :
    Option (Except IoError Unit × Transport × List Happening) :=
  match t.connections[i]? with
  | none => some (.error (.writableClosed chunk.length), t, [])
  | some c =>
    match c.offer? chunk with
    | none => none
    | some (.error e, _) => some (.error e, t, [])
    | some (.ok (), c) => some (.ok (), t.setConnection i c, [.written i chunk])

/-- The next item for the reader of connection number `i`. -/
def receive (t : Transport) (i : Nat) : Receipt × Transport × List Happening :=
  match t.connections[i]? with
  | none => (.ended, t, [])
  | some c =>
    match c.receive with
    | (.item (.ok chunk), c) => (.item (.ok chunk), t.setConnection i c, [.handedOut i chunk])
    | (receipt, c) => (receipt, t.setConnection i c, [])

/-- Whether the reader of connection number `i` has handed out a chunk. -/
def delivered (t : Transport) (i : Nat) : Bool := (t.connections[i]?).any (·.delivered)

/-- The terminal outcome of connection number `i`, if it is settled. -/
def closed? (t : Transport) (i : Nat) : Option (Except IoError Unit) :=
  (t.connections[i]?).bind (·.closed)

/-- Where connection number `i` goes. -/
def destination? (t : Transport) (i : Nat) : Option Destination :=
  (t.connections[i]?).map (·.destination)

/-- One step of a part of the driver of connection number `i`. -/
def step? (t : Transport) (i : Nat) (part : Driver.Part) : Option (Transport × List Happening) :=
  (t.connections[i]?).bind fun c =>
    match part with
    | .dial => (c.dial? i t.dials).map fun (c, happened) =>
      ({ t with dials := t.dials + 1 }.setConnection i c, happened)
    | .connect =>
      match c.driver with
      | .dialing dial => (c.connect? (t.peer dial).answer).map fun (c, happened) =>
        (t.setConnection i c, happened)
      | _ => none
    | .read =>
      c.stream?.bind fun dial => (c.read? i (t.endpoint dial)).map (commit dial)
    | .write =>
      c.stream?.bind fun dial => (c.write? i (t.endpoint dial)).map (commit dial)
    | .discard => (c.discard? i).map fun (c, happened) => (t.setConnection i c, happened)
where
  commit (dial : Nat) (p : Connection.Progress) : Transport × List Happening :=
    ((t.setConnection i p.connection).setEndpoint dial p.endpoint, p.happened)

end Transport

end Tunnel
