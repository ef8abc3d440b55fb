import Tunnel.Bytes
import Tunnel.IoError

/-!
# Remote endpoints

The far side of a connection as the outside world lays it down: what it answers when dialed,
what reading from it gives and how it takes what is written. The world may change all of this
at any time.

## Main definitions

* `Endpoint.read` — one read into a given room.
* `Endpoint.write` — one write of a nonempty chunk.
* `Peer` — an endpoint with its answer to a dial.
-/

namespace Tunnel

/-- How an endpoint treats writes. -/
inductive WriteMode
  | accepts | fails | blocks | takesNothing
  deriving DecidableEq, Repr, Inhabited

structure Endpoint where
  /-- What reads still give, in order; an empty chunk reads as the end. -/
  reads : List (Except IoError Bytes) := []
  /-- Whether the end follows the reads; otherwise further reads wait. -/
  ends : Bool := false
  /-- Nothing can be read before this many bytes were written. -/
  expects : Nat := 0
  /-- Whether what was written can be read back. -/
  echoes : Bool := false
  writes : WriteMode := .accepts
  writeError : IoError := { kind := .brokenPipe, detail := some "scripted write error" }
  /-- Writes fail once this many bytes were taken. -/
  failsAfter : Option Nat := none
  /-- At most this many bytes are taken by one write. -/
  writeRoom : Option Nat := none
  /-- Bytes taken so far. -/
  taken : Nat := 0

/-- What one read gives. -/
inductive ReadAnswer
  | pending | ended
  | failed (e : IoError)
  | chunk (data : Bytes)

/-- What one write gives; the number of bytes taken may be zero. -/
inductive WriteAnswer
  | pending
  | failed (e : IoError)
  | took (n : Nat)

namespace Endpoint

/-- One read of at most `room` bytes. A longer chunk is split, and its rest is read next. -/
def read (room : Nat) (e : Endpoint) : ReadAnswer × Endpoint :=
  if e.taken < e.expects then (.pending, e)
  else match e.reads with
    | [] => (if e.ends then .ended else .pending, e)
    | .error err :: more => (.failed err, { e with reads := more })
    | .ok [] :: more => (.ended, { e with reads := more })
    | .ok data :: more =>
      let rest := data.drop room
      let more := if rest.isEmpty then more else .ok rest :: more
      (.chunk (data.take room), { e with reads := more })

/-- The mode that decides the next write. -/
def mode (e : Endpoint) : WriteMode :=
  if e.failsAfter.any (· ≤ e.taken) then .fails else e.writes

/-- One write of the bytes, of which a prefix may be taken. -/
def write (bytes : Bytes) (e : Endpoint) : WriteAnswer × Endpoint :=
  match e.mode with
  | .blocks => (.pending, e)
  | .fails => (.failed e.writeError, e)
  | .takesNothing => (.took 0, e)
  | .accepts =>
    let part := match e.writeRoom with
      | some n => bytes.take n
      | none => bytes
    let n := part.length
    let reads := if e.echoes && n != 0 then e.reads ++ [.ok part] else e.reads
    (.took n, { e with taken := e.taken + n, reads })

/-- Bytes that are still to be read; an error counts as one. -/
def unread (e : Endpoint) : Nat :=
  e.reads.foldl (fun n read =>
    match read with
    | .ok data => n + data.length
    | .error _ => n + 1) 0

end Endpoint

/-- What dialing a peer gives. -/
inductive DialAnswer
  | undecided
  | accepted
  | refused (e : IoError)
  | crashed
  deriving DecidableEq, Repr, Inhabited

structure Peer where
  answer : DialAnswer
  endpoint : Endpoint := {}

/-- Who answers dials that nobody is prepared for. -/
def Peer.absent : Peer :=
  { answer := .refused { kind := .connectionRefused, detail := some "dial script exhausted" } }

instance : Inhabited Peer := ⟨.absent⟩

end Tunnel
