import Tunnel.Destination
import Tunnel.Remote.Endpoint
import Tunnel.Trace

/-!
# Remote connections

One connection to one destination. Opening it never waits: a driver dials in the background,
and then runs a read loop and a write loop side by side. Both directions go through queues of
the same capacity. The driver ends when both loops have ended, and it is discarded when the
owner drops the connection.

The read loop reads into blocks of 4096 bytes and hands on what each read put there; the next
read gets the rest of the block, and a new block is taken when nothing is left of it.

## Main definitions

* `Connection`, `Driver` — the queues, the signals and where the driver is.
* `Connection.offer?`, `Connection.receive`, `Connection.drop` — what owners and readers do.
* `Connection.step?` — the atomic steps of the driver.
-/

namespace Tunnel

/-- The size of the blocks that a read loop fills. -/
def readBlockSize : Nat := 4096

/-- Where a read loop is. -/
inductive Reading
  /-- It waits to read, with this much room left in its block. -/
  | reading (room : Nat)
  /-- It has an item in hand that waits for room in the queue. -/
  | handing (room : Nat) (item : Except IoError Bytes)
  | ended

/-- Where a write loop is. -/
inductive Writing
  | idle
  /-- It has a chunk in hand of which these bytes are not yet taken. -/
  | sending (rest : Bytes)
  | ended

/-- Where the driver of a connection is. -/
inductive Driver
  | starting
  | dialing (dial : Nat)
  | streaming (dial : Nat) (reading : Reading) (writing : Writing)
  | stopped

/-- Who has the readable side. -/
inductive ReaderEnd
  /-- Nobody has taken it from the connection. -/
  | held
  | taken
  | dropped
  deriving DecidableEq, Repr, Inhabited

/-- What a reader gets. -/
inductive Receipt
  | item (item : Except IoError Bytes)
  | ended
  | pending

structure Connection where
  destination : Destination
  capacity : Nat
  /-- Chunks that wait for the write loop. -/
  outbox : List Bytes := []
  /-- Items that wait for the reader. -/
  inbox : List (Except IoError Bytes) := []
  /-- Whether the reader has handed out a chunk. -/
  delivered : Bool := false
  reader : ReaderEnd := .held
  /-- The terminal outcome of the readable side, once there is one. -/
  closed : Option (Except IoError Unit) := none
  /-- Whether the owner has taken the signal of that outcome. -/
  closedTaken : Bool := false
  /-- Whether the owner has dropped the connection. -/
  discarded : Bool := false
  driver : Driver := .starting

namespace Connection

/-- A fresh connection; capacity zero counts as one. -/
def fresh (destination : Destination) (capacity : Nat) : Connection :=
  { destination, capacity := max capacity 1 }

/-- Whether the write loop may still take chunks. -/
def writable (c : Connection) : Bool :=
  match c.driver with
  | .starting | .dialing _ => true
  | .streaming _ _ .ended => false
  | .streaming _ _ _ => true
  | .stopped => false

/-- Whether more items may still come to the reader. -/
def readable (c : Connection) : Bool :=
  match c.driver with
  | .starting | .dialing _ => true
  | .streaming _ .ended _ => false
  | .streaming _ _ _ => true
  | .stopped => false

/-- The dial whose stream the connection holds. -/
def stream? (c : Connection) : Option Nat :=
  match c.driver with
  | .streaming dial _ _ => some dial
  | _ => none

/-! ### What owners and readers do -/

/-- Writes one chunk: it is queued or fails, or must wait (`none`) for room in the queue. -/
def offer? (c : Connection) (chunk : Bytes) : Option (Except IoError Unit × Connection) :=
  if !c.writable then some (.error (.writableClosed chunk.length), c)
  else if c.outbox.length < c.capacity then
    some (.ok (), { c with outbox := c.outbox ++ [chunk] })
  else none

/-- The next item for the reader. -/
def receive (c : Connection) : Receipt × Connection :=
  match c.inbox with
  | item :: inbox =>
    let delivered := match item with
      | .ok _ => true
      | .error _ => c.delivered
    (.item item, { c with inbox, delivered })
  | [] => (if c.readable then .pending else .ended, c)

/-- Takes the readable side, if nobody has it. -/
def takeReader (c : Connection) : Bool × Connection :=
  match c.reader with
  | .held => (true, { c with reader := .taken })
  | _ => (false, c)

/-- Takes the signal of the terminal outcome, if nobody has. -/
def takeClosed (c : Connection) : Bool × Connection :=
  (!c.closedTaken, { c with closedTaken := true })

/-- The reader goes away, and what waits for it is lost. -/
def dropReader (c : Connection) : Connection := { c with reader := .dropped, inbox := [] }

/-- The owner drops the connection, with the readable side if nobody has taken it. -/
def drop (c : Connection) : Connection :=
  let c := { c with discarded := true }
  match c.reader with
  | .held => c.dropReader
  | _ => c

/-! ### The driver -/

/-- Settles the terminal outcome, unless it is settled. -/
def resolve (c : Connection) (outcome : Except IoError Unit) : Connection :=
  { c with closed := c.closed.or (some outcome) }

/-- The driver is gone: nothing is written any more, and the outcome is settled. -/
def stop (c : Connection) : Connection :=
  { c with driver := .stopped, outbox := [] }.resolve (.ok ())

/-- A connection and its endpoint after a step, with what happened. -/
structure Progress where
  connection : Connection
  endpoint : Endpoint
  happened : List Happening := []

variable (id : Nat)

/-- The driver goes on with these loops, or stops if both have ended. -/
def continueWith (c : Connection) (e : Endpoint) (dial : Nat) (reading : Reading)
    (writing : Writing) (happened : List Happening := []) : Progress :=
  match reading, writing with
  | .ended, .ended =>
    { connection := c.stop, endpoint := e, happened := happened ++ [.released id dial,
        .log .debug c.destination "remote connection driver finished"] }
  | _, _ => { connection := { c with driver := .streaming dial reading writing }, endpoint := e,
              happened }

/-- The driver makes dial number `dial`. -/
def dial? (dial : Nat) (c : Connection) : Option (Connection × List Happening) :=
  match c.driver with
  | .starting => some ({ c with driver := .dialing dial }, [.dialed id dial c.destination])
  | _ => none

/-- The driver learns the answer to its dial. -/
def connect? (answer : DialAnswer) (c : Connection) : Option (Connection × List Happening) :=
  match c.driver with
  | .dialing dial =>
    match answer with
    | .undecided => none
    | .accepted =>
      some ({ c with driver := .streaming dial (.reading readBlockSize) .idle },
        [.log .debug c.destination "remote connected"])
    | .refused e =>
      some ((c.resolve (.error e)).stop,
        [.log .warn c.destination s!"remote connect failed: {e}",
          .log .debug c.destination "remote connection driver finished"])
    | .crashed => some (c.stop, [])
  | _ => none

/-- The read loop after an item was handed on, or could not be. -/
def afterItem (room : Nat) : Except IoError Bytes → Reading
  | .ok _ => .reading (if room = 0 then readBlockSize else room)
  | .error _ => .ended

/-- The next step of the read loop: it reads, or hands on what it has read. -/
def read? (e : Endpoint) (c : Connection) : Option Progress :=
  match c.driver with
  | .streaming dial (.reading room) writing =>
    match e.read room with
    | (.pending, _) => none
    | (.ended, e) =>
      some ((c.resolve (.ok ())).continueWith id e dial .ended writing [.exhausted id dial])
    | (.failed err, e) => some (c.continueWith id e dial (.handing room (.error err)) writing)
    | (.chunk data, e) =>
      some (c.continueWith id e dial (.handing (room - data.length) (.ok data)) writing
        [.received id dial data])
  | .streaming dial (.handing room item) writing =>
    if c.reader = .dropped then
      some ((c.resolve (item.map fun _ => ())).continueWith id e dial .ended writing)
    else if c.inbox.length < c.capacity then
      let c := { c with inbox := c.inbox ++ [item] }
      match item with
      | .ok _ => some (c.continueWith id e dial (afterItem room item) writing)
      | .error err => some ((c.resolve (.error err)).continueWith id e dial .ended writing)
    else none
  | _ => none

/-- The write loop fails, and what waits for it is lost. -/
def failWriting (c : Connection) (e : Endpoint) (dial : Nat) (reading : Reading)
    (err : IoError) : Progress :=
  { c with outbox := [] }.continueWith id e dial reading .ended
    [.writeFailed id dial, .log .warn c.destination s!"remote write failed: {err}"]

/-- The next step of the write loop: it takes a chunk from the queue, or writes once. It ends
when a write fails, or when the owner is gone and the queue is empty. -/
def write? (e : Endpoint) (c : Connection) : Option Progress :=
  match c.driver with
  | .streaming dial reading .idle =>
    match c.outbox with
    | [] => if c.discarded then some (c.continueWith id e dial reading .ended) else none
    | [] :: outbox => some ({ c with outbox }.continueWith id e dial reading .idle)
    | chunk :: outbox => some ({ c with outbox }.continueWith id e dial reading (.sending chunk))
  | .streaming dial reading (.sending rest) =>
    match e.write rest with
    | (.pending, _) => none
    | (.failed err, e) => some (c.failWriting id e dial reading err)
    | (.took 0, e) => some (c.failWriting id e dial reading .writeZero)
    | (.took n, e) =>
      let left := rest.drop n
      some (c.continueWith id e dial reading (if left.isEmpty then .idle else .sending left)
        [.accepted id dial (rest.take n)])
  | _ => none

/-- The driver notices that the owner is gone, and lets go of everything. -/
def discard? (c : Connection) : Option (Connection × List Happening) :=
  if c.discarded then
    let note := Happening.log .debug c.destination "remote connection discarded"
    match c.driver with
    | .streaming dial _ _ => some (c.stop, [.released id dial, note])
    | .starting | .dialing _ => some (c.stop, [note])
    | .stopped => none
  else none

end Connection

end Tunnel
