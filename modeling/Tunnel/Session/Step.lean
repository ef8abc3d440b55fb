import Tunnel.Session.Basic

/-!
# The steps of a session

A session's task and the tasks beside it take atomic steps in any order, and between any two of
them the outside world may move: the client changes its readiness, an event is fired, a peer
changes its behaviour or answers a dial, or the session is told to stop. A run is any sequence
of such moves.

## Main definitions

* `World.take?`, `World.join?`, `World.resume?`, `World.finish?`, `World.abandon?` — the steps of
  the session's task.
* `World.step?` — the next step of any task.
* `World.outside` — a move of the outside world.
* `World.run?` — a sequence of moves.
-/

namespace Tunnel

namespace World

variable {σ : Type}

/-! ### Small changes -/

def note (w : World σ) (happened : List Happening) : World σ :=
  { w with toPlumbing := w.toPlumbing.note happened }

def log (w : World σ) (level : Log.Level) (text : String) : World σ :=
  { w with toPlumbing := w.toPlumbing.log level text }

def withTransport (w : World σ) (result : Transport × List Happening) : World σ :=
  { w with toPlumbing := w.toPlumbing.withTransport result }

def withSession (w : World σ) (f : Session → Session) : World σ :=
  { w with session := f w.session }

def setPhase (w : World σ) (phase : Session.Phase) : World σ :=
  w.withSession ({ · with phase })

/-- Enters a stage, and logs the change. -/
def enter (w : World σ) (next : Stage) : World σ :=
  if w.session.stage = next then w
  else
    (w.log .debug s!"state {w.session.stage.name} -> {next.name}").withSession
      ({ · with stage := next })

/-- The active connection changes, and the one that was active is dropped. -/
def setActive (w : World σ) (active : Option Nat) : World σ :=
  let w := match w.session.active with
    | some i => { w with toPlumbing := w.toPlumbing.dropConnection i }
    | none => w
  w.withSession ({ · with active })

/-- Nobody takes the client's events any more. -/
def dropEvents (w : World σ) : World σ :=
  { w with chunks := { w.chunks with events := w.chunks.events.dropReceiver } }

/-- Opens a connection; a session crashes if that is impossible. -/
def open? (w : World σ) (d : Destination) : Option (Nat × World σ) :=
  (w.transport.open? d w.engine.capacity).map fun (i, result) => (i, w.withTransport result)

/-- The task is gone, and with it all that it owned. -/
def release (w : World σ) (last : Session.Phase) : World σ :=
  let w := match w.session.phase with
    | .replaying i _ => { w with toPlumbing := w.toPlumbing.dropConnection i }
    | _ => w
  ((w.setActive none).dropEvents).setPhase last

/-- Starts a pump on connection number `i`, of which the session takes the reader. -/
def startPump (w : World σ) (i : Nat) (closesClient : Bool) : World σ :=
  let transport := w.transport.modifyConnection i fun c => c.takeReader.2
  let (k, plumbing) := { w.toPlumbing with transport }.startPump i closesClient
  { w with toPlumbing := plumbing }.withSession ({ · with pump := some k })

/-- The session ends with a report. -/
def conclude (w : World σ) : World σ :=
  let w := w.enter .done
  let s := w.session
  let report : Report :=
    { destination := w.gate.destination, stage := s.stage, connected := s.connected
      retried := s.retried, replayedChunks := s.replayedChunks
      chunksToRemote := s.chunksToRemote, hasIncomingData := s.hasIncomingData
      closeRequested := w.gate.requested }
  let words := s!"relay session ended: retried={s.retried} chunks_to_remote={s.chunksToRemote}"
  (w.log .info (words ++ s!" has_incoming_data={s.hasIncomingData}")).release (.ended report)

/-- The active connection is dropped and the session ends. -/
def finish (w : World σ) : World σ := (w.setActive none).conclude

variable [ClientChannel σ]

def close (w : World σ) (reason : String) : World σ :=
  { w with toPlumbing := w.toPlumbing.close reason }

/-- Cancels the client's chunks and requests the close of the client. -/
def cancel (w : World σ) (reason : String) : World σ :=
  let (_, chunks, gate, happened) := w.chunks.cancel w.gate reason
  { w with chunks, gate }.note happened

/-! ### From the client to the remote -/

/-- The client's chunks are no longer taken, since one could not be passed on. -/
def failForwarding (w : World σ) (e : SessionError) : World σ :=
  ((w.log .error s!"client to remote pump has exception: {e}").cancel e.message).withSession
    ({ · with clientOpen := false, phase := .selecting })

/-- Begins to write a chunk to the active connection. The chunk is kept if a retry is still
possible and the replay buffer has room for it. -/
def beginWrite (w : World σ) (chunk : Bytes) : World σ :=
  match w.session.active with
  | none => w.failForwarding .noActiveConnection
  | some i =>
    if w.session.retried || w.transport.delivered i then w.setPhase (.writing chunk false)
    else
      let (kept, replay) := w.session.replay.record chunk
      w.withSession ({ · with replay, phase := .writing chunk kept })

/-- Passes a chunk of the client on; the first one opens the connection. -/
def forward (w : World σ) (chunk : Bytes) : World σ :=
  if w.session.stage = .awaitingFirstChunk then
    let w := w.note [.log .debug w.gate.destination "connecting"]
    match w.open? w.gate.destination with
    | none => w.release .crashed
    | some (i, w) =>
      let w := (w.withSession ({ · with connected := true })).enter .connected
      ((w.startPump i false).withSession ({ · with active := some i })).beginWrite chunk
  else w.beginWrite chunk

/-- The session takes the next item of the client's chunks. -/
def take? (w : World σ) : Option (World σ) :=
  if w.session.phase = .selecting ∧ w.session.clientOpen ∧ w.chunks.ready then
    let (item, chunks, gate, happened) := w.chunks.poll w.gate
    let w := { w with chunks, gate }.note happened
    match item with
    | .chunk data => some ((w.note [.taken data]).forward data)
    | .failed e =>
      some ((w.log .info s!"client stream failed: {e}").withSession
        ({ · with clientOpen := false }))
    | .ended =>
      some ((w.log .info "client stream ended").withSession ({ · with clientOpen := false }))
    | .pending => some w
  else none

/-- The write of a chunk has an answer. -/
def resumeWrite? (w : World σ) (chunk : Bytes) (kept : Bool) : Option (World σ) :=
  match w.session.active with
  | none => some (w.failForwarding .noActiveConnection)
  | some i =>
    (w.transport.offer? i chunk).map fun
      | (.ok (), result) =>
        (w.withTransport result).withSession fun s =>
          { s with chunksToRemote := s.chunksToRemote + 1, phase := .selecting }
      | (.error e, _) =>
        let w := w.note [.refused i chunk]
        if kept then
          let target := (w.transport.destination? i).getD w.gate.destination
          (w.log .debug s!"write to {target} failed, chunk kept for replay: {e}").setPhase .selecting
        else (w.setActive none).failForwarding (.remote e)

/-! ### From the first connection to the fallback -/

/-- The first connection is terminal, and one through the fallback host is opened. -/
def openFallback (w : World σ) (closed : Except IoError Unit) : World σ :=
  let w := match closed with
    | .error e => w.log .warn s!"first connection failed: {e}"
    | .ok () => w
  let target := w.gate.destination.withHost w.engine.fallbackHost
  let w := w.note [.log .debug target "connecting via fallback egress"]
  match w.open? target with
  | none => w.release .crashed
  | some (i, w) =>
    let (rest, replay) := w.session.replay.take
    (w.log .info s!"retry connection via {target}").withSession
      ({ · with replay, phase := .replaying i rest })

/-- Leaves the first connection as soon as it is terminal. -/
def leaveFirst? (w : World σ) : Option (World σ) :=
  match w.session.active with
  | none => some (w.openFallback (.ok ()))
  | some i =>
    (w.transport.closed? i).map fun closed =>
      let transport := w.transport.modifyConnection i fun c => c.takeClosed.2
      { w with transport }.openFallback closed

/-- The fallback connection becomes the active one, and gets its pump. -/
def adopt (w : World σ) (i : Nat) : World σ :=
  let transport := w.transport.modifyConnection i fun c => c.takeClosed.2
  (({ w with transport }.startPump i true).setActive (some i)).setPhase .selecting

/-- The replay goes on by one chunk, or is over. A failed write ends it. -/
def replay? (w : World σ) (i : Nat) : List Bytes → Option (World σ)
  | [] => some (w.adopt i)
  | chunk :: rest =>
    (w.transport.offer? i chunk).map fun
      | (.ok (), result) =>
        ((w.withTransport result).log .debug s!"replayed {chunk.length} bytes").withSession
          fun s => { s with replayedChunks := s.replayedChunks + 1, phase := .replaying i rest }
      | (.error e, _) =>
        let w := w.note [.refused i chunk]
        let target := (w.transport.destination? i).getD w.gate.destination
        let words := s!"replay to {target} stopped after {w.session.replayedChunks} chunks: {e}"
        (w.log .warn words).setPhase (.replaying i [])

/-- The session goes on with what it waited for. -/
def resume? (w : World σ) : Option (World σ) :=
  match w.session.phase with
  | .writing chunk kept => w.resumeWrite? chunk kept
  | .leavingFirst => w.leaveFirst?
  | .replaying i rest => w.replay? i rest
  | .selecting | .ended _ | .aborted | .crashed => none

/-! ### The end of a pump -/

/-- What follows the end of the awaited pump. Only a first connection that ended without a byte
leads to a retry, and only while the client is open. -/
def pumpEnded (w : World σ) (outcome : PumpOutcome) : World σ :=
  let w := w.withSession
    ({ · with pump := none, hasIncomingData := outcome.delivered })
  match outcome with
  | .failed _ e => (w.log .info s!"remote to client pump failed: {e}").finish
  | .finished delivered =>
    if delivered || w.session.retried then (w.close "remote readable closed").finish
    else if ClientChannel.readyState w.gate.client = .opened then
      (w.withSession ({ · with retried := true, phase := .leavingFirst })).enter .retrying
    else
      let w := w.log .info "remote closed without data, client already gone, not retrying"
      (w.close "remote readable closed").finish

/-- The session learns that its pump has ended. -/
def join? (w : World σ) : Option (World σ) :=
  if w.session.phase = .selecting then
    w.session.pump.bind fun k =>
      ((w.pumps[k]?).bind (·.outcome? k)).map w.pumpEnded
  else none

/-- The session ends when there is nothing left to wait for. -/
def finish? (w : World σ) : Option (World σ) :=
  if w.session.phase = .selecting ∧ ¬w.session.clientOpen ∧ w.session.pump = none then
    some w.conclude
  else none

/-- A session that was told to stop does so. -/
def abandon? (w : World σ) : Option (World σ) :=
  match w.session.phase with
  | .ended _ | .aborted | .crashed => none
  | _ => if w.session.abortRequested then some (w.release .aborted) else none

/-! ### Tasks and moves -/

/-- The parts of the session's task. -/
inductive Branch
  | take | join | resume | finish | abandon
  deriving DecidableEq, Repr, Inhabited

inductive Task
  | session (branch : Branch)
  | beside (task : Plumbing.Task)
  deriving DecidableEq, Repr, Inhabited

/-- The next step of the session's task. One that was told to stop does nothing else. -/
def sessionStep? (w : World σ) (branch : Branch) : Option (World σ) :=
  if w.session.abortRequested then
    match branch with
    | .abandon => w.abandon?
    | _ => none
  else match branch with
    | .take => w.take?
    | .join => w.join?
    | .resume => w.resume?
    | .finish => w.finish?
    | .abandon => none

/-- The next step of a task, if it need not wait. -/
def step? (w : World σ) : Task → Option (World σ)
  | .session branch => w.sessionStep? branch
  | .beside task => (w.toPlumbing.step? task).map fun plumbing => { w with toPlumbing := plumbing }

/-- What the outside world may do between two steps. -/
inductive Outside (σ : Type)
  /-- The client changes by itself. -/
  | client (next : σ)
  /-- The client fires an event. -/
  | event (e : ChannelEvent)
  /-- No more events will come. -/
  | noMoreEvents
  /-- A peer changes its behaviour, or answers a dial. -/
  | peer (n : Nat) (next : Peer)
  /-- The session is told to stop. -/
  | abort

/-- The client fires an event, which is lost if the queue does not take it. -/
def fire (w : World σ) (e : ChannelEvent) : Offer × World σ :=
  let (offer, events) := w.chunks.events.offer e
  (offer, { w with chunks := { w.chunks with events } })

def outside (w : World σ) : Outside σ → World σ
  | .client next => { w with gate := { w.gate with client := next } }
  | .event e => (w.fire e).2
  | .noMoreEvents => { w with chunks := { w.chunks with events := w.chunks.events.dropSender } }
  | .peer n next => { w with transport := w.transport.setPeer n next }
  | .abort => w.withSession ({ · with abortRequested := true })

/-- A step of a task or a move of the outside world. -/
inductive Move (σ : Type)
  | task (t : Task)
  | outside (o : Outside σ)

def move? (w : World σ) : Move σ → Option (World σ)
  | .task t => w.step? t
  | .outside o => some (w.outside o)

/-- A sequence of moves; `none` if one of them is a step of a task that must wait. -/
def run? (w : World σ) : List (Move σ) → Option (World σ)
  | [] => some w
  | m :: rest => (w.move? m).bind (run? · rest)

/-- No task can step. -/
def Quiescent (w : World σ) : Prop := ∀ t, w.step? t = none

end World

end Tunnel
