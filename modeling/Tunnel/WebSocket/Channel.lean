import Tunnel.Client.ChunkStream
import Tunnel.WebSocket.Protocol

/-!
# WebSocket channels

A WebSocket as a client channel. A reader turns the items of the socket into events on a bounded
queue, and stops reading while the queue is full. A writer passes on what `send` and `close` have
put into its queue. The readiness is shared by both and by the callers.

The reader takes its items from any source and the writer sends into any sink: both steps have
the socket's answer as an argument. `Socket` joins them to the protocol.

## Main definitions

* `Channel`, with its instance of `ClientChannel`.
* `Channel.write?` — the step of the writer.
* `Feed.read`, `Feed.queue?` — the steps of the reader.
* `Socket.settle` — reader and writer over the protocol, run to rest.
-/

namespace Tunnel.WebSocket

/-- What callers ask of the writer. -/
inductive Command
  | binary (data : Bytes)
  | close
  deriving DecidableEq, Repr, Inhabited

/-- The part of a WebSocket that callers see, and the queue of its writer. -/
structure Channel where
  state : ReadyState := .opened
  /-- What the writer is still to do. -/
  commands : List Command := []
  /-- Whether nobody can ask the writer any more. -/
  abandoned : Bool := false
  writerEnded : Bool := false
  deriving DecidableEq, Repr, Inhabited

/-- A log line of a channel. -/
def note (text : String) : Happening :=
  .logged { level := .debug, text := "[WebSocket] " ++ text }

namespace Channel

/-! ### What callers do -/

/-- Asks the writer for something, unless it has ended. -/
def ask (c : Channel) (command : Command) : Bool × Channel :=
  if c.writerEnded then (false, c) else (true, { c with commands := c.commands ++ [command] })

def writerGone : String := "writer task gone: channel closed"

/-- Queues a message while the channel is open. -/
def send (c : Channel) (data : Bytes) : SendResult × Channel :=
  if c.state = .opened then
    match c.ask (.binary data) with
    | (true, c) => (.sent, c)
    | (false, c) => (.failed (.sendFailed writerGone), c)
  else (.failed .closed, c)

/-- Starts to close. An open channel is closing from now on. -/
def close (c : Channel) : Except ChannelError Unit × Channel :=
  let c := if c.state = .opened then { c with state := .closing } else c
  match c.ask .close with
  | (true, c) => (.ok (), c)
  | (false, c) => (.error (.closeFailed writerGone), c)

instance : ClientChannel Channel where
  readyState := state
  send := send
  close := close

/-- Nobody asks the writer any more. -/
def abandon (c : Channel) : Channel := { c with abandoned := true }

/-! ### The writer -/

/-- The writer ends, and what it was still to do is lost. -/
def endWriter (c : Channel) : Channel :=
  { c with state := .closed, writerEnded := true, commands := [] }

/-- The writer has carried out a command, which the sink took or refused. A close is the last. -/
def wrote (c : Channel) (command : Command) (rest : List Command) (taken : Except String Unit) :
    Channel × List Happening :=
  match command, taken with
  | .binary _, .ok () => ({ c with commands := rest }, [])
  | .binary _, .error e => (c.endWriter, [note s!"send failed, stopping writer: {e}"])
  | .close, .ok () => (c.endWriter, [])
  | .close, .error e => (c.endWriter, [note s!"close frame not sent: {e}"])

/-- The next step of the writer over a sink `put` with states in `S`. It ends when nobody can ask
it any more. -/
def write? {S : Type} (put : S → Command → Except String Unit × S) (s : S) (c : Channel) :
    Option (Channel × S × List Happening) :=
  if c.writerEnded then none
  else match c.commands with
    | command :: rest =>
      let (taken, s) := put s command
      let (c, happened) := c.wrote command rest taken
      some (c, s, happened)
    | [] => if c.abandoned then some (c.endWriter, s, []) else none

end Channel

/-! ### The reader -/

/-- What a reader does once its event is queued. -/
inductive Afterwards
  /-- It reads on. -/
  | continues
  /-- It ends, after a close event of its own if there was none. -/
  | finishes
  /-- It has ended. -/
  | stops
  deriving DecidableEq, Repr, Inhabited

/-- Where the reader is. -/
inductive Reader
  | reading
  /-- An event waits for room in the queue. -/
  | queueing (event : ChannelEvent) (afterwards : Afterwards)
  | ended
  deriving DecidableEq, Repr, Inhabited

/-- What the reader works on: the channel, whose readiness it changes, and the queue of its
events. -/
structure Feed where
  channel : Channel := {}
  events : EventQueue
  reader : Reader := .reading
  /-- Whether a close event was fired. -/
  closeFired : Bool := false
  deriving DecidableEq, Repr, Inhabited

namespace Feed

/-- The feed of a socket that was just accepted; capacity zero counts as one. No queue can be
made with an impossible capacity. -/
def accept? (capacity : Nat) : Option Feed :=
  let capacity := max capacity 1
  if validCapacity capacity then some { events := { capacity } } else none

def setState (f : Feed) (state : ReadyState) : Feed :=
  { f with channel := { f.channel with state } }

/-- The reader has ended, and no more events come. -/
def stop (f : Feed) : Feed := { f with reader := .ended, events := f.events.dropSender }

/-- The reader ends: the channel is closed, and a close event is fired unless one was. -/
def finish (f : Feed) : Feed :=
  let f := f.setState .closed
  if f.closeFired then f.stop
  else { f with reader := .queueing .close .stops, closeFired := true }

/-- The reader takes an item of the socket. Messages after a close are dropped. -/
def read (f : Feed) : Incoming → Feed × List Happening
  | .binary data | .text data =>
    if f.closeFired then (f, [])
    else ({ f with reader := .queueing (.message data) .continues }, [])
  | .ping | .pong | .raw => (f, [])
  | .close body =>
    let f := f.setState .closed
    let happened := [note s!"close frame received: {CloseBody.describe body}"]
    if f.closeFired then (f, happened)
    else ({ f with reader := .queueing .close .continues, closeFired := true }, happened)
  | .closed | .ended => (f.finish, [])
  | .failed reason =>
    let f := f.setState .closed
    ({ f with reader := .queueing (.error (.transport reason)) .finishes }, [])

/-- What follows a queued event, or one that nobody wants. -/
def readOn (f : Feed) : Afterwards → Feed
  | .continues => { f with reader := .reading }
  | .finishes => f.finish
  | .stops => f.stop

/-- The reader's event goes into the queue, or must wait (`none`). A reader whose message nobody
wants ends. -/
def queue? (f : Feed) : Option Feed :=
  match f.reader with
  | .queueing event afterwards =>
    match f.events.offer event with
    | (.queued, events) => some ({ f with events }.readOn afterwards)
    | (.full, _) => none
    | (.gone, _) =>
      match event with
      | .message _ => some f.finish
      | _ => some (f.readOn afterwards)
  | .reading | .ended => none

/-- The owner takes the next event, if there is one. -/
def takeEvent (f : Feed) : Option ChannelEvent × Feed :=
  match f.events.waiting with
  | [] => (none, f)
  | e :: waiting => (some e, { f with events := { f.events with waiting } })

/-- The owner takes no more events. -/
def dropEvents (f : Feed) : Feed := { f with events := f.events.dropReceiver }

/-- Whether reader and writer have both ended. -/
def isOver (f : Feed) : Bool := f.reader == .ended && f.channel.writerEnded

end Feed

/-! ### Over the protocol -/

/-- A feed over the protocol. -/
structure Socket where
  feed : Feed
  protocol : Protocol := {}

namespace Socket

/-- The protocol as the sink of the writer. -/
def put (p : Protocol) (command : Command) : Except String Unit × Protocol :=
  let (result, p) := match command with
    | .binary data => p.send (some data)
    | .close => p.send none
  (result.mapError Failure.message, p)

/-- The next step of the writer. -/
def write? (s : Socket) : Option (Socket × List Happening) :=
  (s.feed.channel.write? put s.protocol).map fun (channel, protocol, happened) =>
    ({ feed := { s.feed with channel }, protocol }, happened)

/-- The next step of the reader. -/
def read? (s : Socket) : Option (Socket × List Happening) :=
  match s.feed.reader with
  | .reading =>
    s.protocol.receive?.map fun
      | (none, protocol) => ({ s with protocol }, [])
      | (some item, protocol) =>
        let (feed, happened) := s.feed.read item
        ({ feed, protocol }, happened)
  | .queueing _ _ => s.feed.queue?.map fun feed => ({ s with feed }, [])
  | .ended => none

/-- The next step of the reader or else of the writer. -/
def step? (s : Socket) : Option (Socket × List Happening) := s.read?.or s.write?

/-- A bound on the steps to rest: a frame of at least two bytes is read, answered and queued. -/
def work (s : Socket) : Nat := 2 * s.protocol.buffer.length + s.feed.channel.commands.length + 8

/-- Runs reader and writer for at most `n` steps, or until both must wait. -/
def run : Nat → Socket → Socket × List Happening
  | 0, s => (s, [])
  | n + 1, s =>
    match s.step? with
    | none => (s, [])
    | some (s, now) =>
      let (s, later) := run n s
      (s, now ++ later)

/-- Runs reader and writer until both must wait. -/
def settle (s : Socket) : Socket × List Happening := run s.work s

end Socket

end Tunnel.WebSocket
