import Tunnel.Client.Shutdown

/-!
# The client's chunks

The bounded queue of a channel's events, read as an ordered, finite and cancellable sequence of
chunks. A message is a chunk, a close ends the sequence and an error fails it; both also request
the close of the client. Once the stream is cancelled, messages and closes are consumed without
a trace on it, and errors stay visible. A stream that has ended or failed stays ended.

## Main definitions

* `EventQueue`, `EventQueue.offer` — the bounded queue, and putting an event in without waiting.
* `ChunkStream.poll` — the next item, if there is one now.
* `ChunkStream.cancel` — cancels the stream and requests the close.
-/

namespace Tunnel

/-- A bounded queue holds between one event and this many: an eighth of what a word can count. -/
def maxQueueCapacity : Nat := UInt64.size / 8 - 1

/-- Whether a queue of this capacity can be made. -/
def validCapacity (n : Nat) : Bool := 0 < n && n ≤ maxQueueCapacity

/-- The events that a channel has fired and nobody has taken. -/
structure EventQueue where
  capacity : Nat
  waiting : List ChannelEvent := []
  senderGone : Bool := false
  receiverGone : Bool := false
  deriving DecidableEq, Repr, Inhabited

/-- How putting an event into the queue without waiting ends. -/
inductive Offer
  | queued | full | gone
  deriving DecidableEq, Repr, Inhabited

namespace EventQueue

def offer (q : EventQueue) (e : ChannelEvent) : Offer × EventQueue :=
  if q.receiverGone then (.gone, q)
  else if q.capacity ≤ q.waiting.length then (.full, q)
  else (.queued, { q with waiting := q.waiting ++ [e] })

/-- Nobody takes events any more; those that wait are lost. -/
def dropReceiver (q : EventQueue) : EventQueue := { q with waiting := [], receiverGone := true }

def dropSender (q : EventQueue) : EventQueue := { q with senderGone := true }

end EventQueue

structure ChunkStream where
  events : EventQueue
  cancelled : Bool := false
  finished : Bool := false
  deriving DecidableEq, Repr, Inhabited

/-- What a poll of the stream gives. -/
inductive Poll
  | chunk (data : Bytes)
  | ended
  | failed (e : ChannelError)
  | pending
  deriving DecidableEq, Repr, Inhabited

namespace ChunkStream

variable {σ : Type} [ClientChannel σ]

/-- What one event produces on the stream, and the coordinator after it. -/
def produce (cancelled : Bool) (k : Coordinator σ) :
    ChannelEvent → Option Poll × Coordinator σ × List Happening
  | .message data => (if cancelled then none else some (.chunk data), k, [])
  | .close =>
    let (_, k, happened) := k.close "client channel closed"
    (if cancelled then none else some .ended, k, happened)
  | .error e =>
    let warning := Happening.log .warn k.destination s!"client channel has error: {e}"
    let (_, k, happened) := k.close "client channel error"
    (some (.failed e), k, warning :: happened)

/-- Consumes events up to the first that produces something. -/
def consume (cancelled : Bool) : Coordinator σ → List ChannelEvent →
    Option Poll × List ChannelEvent × Coordinator σ × List Happening
  | k, [] => (none, [], k, [])
  | k, e :: rest =>
    match produce cancelled k e with
    | (some item, k, now) => (some item, rest, k, now)
    | (none, k, now) =>
      let (item, rest, k, later) := consume cancelled k rest
      (item, rest, k, now ++ later)

/-- Whether a poll would give an item or consume an event. -/
def ready (s : ChunkStream) : Bool :=
  s.finished || !s.events.waiting.isEmpty || s.events.senderGone

/-- The next item of the stream. -/
def poll (s : ChunkStream) (k : Coordinator σ) :
    Poll × ChunkStream × Coordinator σ × List Happening :=
  if s.finished then (.ended, s, k, [])
  else
    let (item, waiting, k, happened) := consume s.cancelled k s.events.waiting
    let s := { s with events := { s.events with waiting } }
    match item with
    | some (.chunk data) => (.chunk data, s, k, happened)
    | some item => (item, { s with finished := true }, k, happened)
    | none =>
      if s.events.senderGone then (.ended, { s with finished := true }, k, happened)
      else (.pending, s, k, happened)

/-- Cancels the stream and requests the close of the client. Says whether this was the first
cancellation. -/
def cancel (s : ChunkStream) (k : Coordinator σ) (reason : String) :
    Bool × ChunkStream × Coordinator σ × List Happening :=
  if s.cancelled then (false, s, k, [])
  else
    let note := Happening.log .info k.destination s!"client stream was cancelled, due to {reason}"
    let (_, k, happened) := k.close "client stream cancelled"
    (true, { s with cancelled := true }, k, note :: happened)

end ChunkStream

end Tunnel
