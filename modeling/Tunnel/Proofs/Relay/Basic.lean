import Mathlib.Tactic.Simps.Basic
import Tunnel.Proofs.Line.Basic

/-!
# Relays

What matters of a world for the data on its way: the session with its connections and pumps, and
the history without logs, dials and the closing of the client. The outside world is not in it,
so a move either leaves it alone, or is a step of one line, or one of a few steps of the session.

## Main definitions

* `Relay`, `World.relay` — this view of a world.
* `Relay.line?`, `Relay.setLine` — connection and pump of one number.
* `Relay.Step` — what one move can do.
-/

namespace Tunnel

namespace Session

/-- Whether the task of the session is gone. -/
def isOver (s : Session) : Bool :=
  match s.phase with
  | .ended _ | .aborted | .crashed => true
  | .selecting | .writing _ _ | .leavingFirst | .replaying _ _ => false

/-- The connection that the session replays onto. -/
def target? (s : Session) : Option Nat :=
  match s.phase with
  | .replaying i _ => some i
  | _ => none

/-- The connection that the session writes to: the one it replays onto, or the active one. -/
def current? (s : Session) : Option Nat := s.target?.or s.active

/-- The chunks that the session has in hand to be written. -/
def inHand (s : Session) : List Bytes :=
  match s.phase with
  | .writing chunk _ => [chunk]
  | .replaying _ rest => rest
  | _ => []

/-- The session about to write a chunk, which it keeps if a retry is still possible and the
replay buffer has room. -/
def prepare (s : Session) (delivered : Bool) (chunk : Bytes) : Session :=
  if s.retried || delivered then { s with phase := .writing chunk false }
  else { s with
    replay := (s.replay.record chunk).2
    phase := .writing chunk (s.replay.record chunk).1 }

section prepare

variable {s : Session} {delivered : Bool} {chunk : Bytes}

@[simp] theorem prepare_phase : (s.prepare delivered chunk).phase =
    .writing chunk (!(s.retried || delivered) && (s.replay.record chunk).1) := by
  unfold prepare
  split <;> grind

@[simp] theorem prepare_replay : (s.prepare delivered chunk).replay =
    if s.retried || delivered then s.replay else (s.replay.record chunk).2 := by
  unfold prepare
  split <;> rfl

@[simp] theorem prepare_active : (s.prepare delivered chunk).active = s.active := by
  unfold prepare
  split <;> rfl

@[simp] theorem prepare_stage : (s.prepare delivered chunk).stage = s.stage := by
  unfold prepare
  split <;> rfl

@[simp] theorem prepare_pump : (s.prepare delivered chunk).pump = s.pump := by
  unfold prepare
  split <;> rfl

@[simp] theorem prepare_retried : (s.prepare delivered chunk).retried = s.retried := by
  unfold prepare
  split <;> rfl

@[simp] theorem prepare_clientOpen :
    (s.prepare delivered chunk).clientOpen = s.clientOpen := by
  unfold prepare
  split <;> rfl

@[simp] theorem prepare_connected :
    (s.prepare delivered chunk).connected = s.connected := by
  unfold prepare
  split <;> rfl

@[simp] theorem prepare_replayedChunks :
    (s.prepare delivered chunk).replayedChunks = s.replayedChunks := by
  unfold prepare
  split <;> rfl

@[simp] theorem prepare_chunksToRemote :
    (s.prepare delivered chunk).chunksToRemote = s.chunksToRemote := by
  unfold prepare
  split <;> rfl

@[simp] theorem prepare_hasIncomingData :
    (s.prepare delivered chunk).hasIncomingData = s.hasIncomingData := by
  unfold prepare
  split <;> rfl

@[simp] theorem prepare_current? : (s.prepare delivered chunk).current? = s.active := by
  simp [current?, target?]

@[simp] theorem prepare_inHand : (s.prepare delivered chunk).inHand = [chunk] := by
  simp [inHand]

@[simp] theorem prepare_isOver : (s.prepare delivered chunk).isOver = false := by
  simp [isOver]

end prepare

/-- The session whose task is gone. -/
def gone (s : Session) (last : Phase) : Session := { s with active := none, phase := last }

/-- What is told of the session at its end. -/
def report (s : Session) (destination : Destination) (requested : Bool) : Report where
  destination
  stage := .done
  connected := s.connected
  retried := s.retried
  replayedChunks := s.replayedChunks
  chunksToRemote := s.chunksToRemote
  hasIncomingData := s.hasIncomingData
  closeRequested := requested

/-- The session that has ended with its report. -/
def concluded (s : Session) (destination : Destination) (requested : Bool) : Session :=
  { s with stage := .done }.gone (.ended (s.report destination requested))

end Session

/-- The part of a world that data passes through. -/
@[ext]
structure Relay where
  engine : Engine
  destination : Destination
  session : Session
  connections : List Connection
  pumps : List Pump
  /-- The history of data. -/
  flow : List Happening
  /-- Whether the close of the client was requested. -/
  requested : Bool
  /-- Whether the client's chunks were cancelled. -/
  cancelled : Bool

/-- The part of a world that data passes through. -/
def World.relay {σ : Type} (w : World σ) : Relay where
  engine := w.engine
  destination := w.gate.destination
  session := w.session
  connections := w.transport.connections
  pumps := w.pumps
  flow := w.history.filter Happening.concernsData
  requested := w.gate.requested
  cancelled := w.chunks.cancelled

namespace Relay

/-- Line number `i`. -/
def line? (r : Relay) (i : Nat) : Option Line :=
  (r.connections[i]?).map fun connection => { connection, pump := r.pumps[i]? }

/-- Line number `i` changes, but neither gets nor loses its pump. -/
@[simps engine destination session connections flow requested cancelled]
def setLine (r : Relay) (i : Nat) (l : Line) : Relay :=
  { r with
    connections := r.connections.set i l.connection
    pumps := match l.pump with
      | some p => r.pumps.set i p
      | none => r.pumps }

/-- More has happened, and the close of the client may be requested. -/
@[simps]
def after (r : Relay) (h : List Happening) (asks : Bool) : Relay :=
  { r with flow := r.flow ++ h, requested := r.requested || asks }

/-- The session changes. -/
@[simps]
def withSession (r : Relay) (s : Session) : Relay := { r with session := s }

/-- A connection changes, if there is one. -/
@[simps engine destination session pumps flow requested cancelled]
def modify (r : Relay) (i : Option Nat) (f : Connection → Connection) : Relay :=
  { r with connections := match i with
    | some i => r.connections.modify i f
    | none => r.connections }

/-- A connection takes a chunk. -/
@[simps engine destination session pumps flow requested cancelled]
def write (r : Relay) (i : Nat) (chunk : Bytes) : Relay :=
  { r with
    connections := r.connections.modify i fun c => { c with outbox := c.outbox ++ [chunk] }
    flow := r.flow ++ [.written i chunk] }

/-- A connection is opened. -/
@[simps engine destination session pumps flow requested cancelled]
def opening (r : Relay) (d : Destination) : Relay :=
  { r with
    connections := r.connections ++ [Connection.fresh d r.engine.capacity]
    flow := r.flow ++ [.opened r.connections.length d] }

/-- A pump starts on connection number `i`. -/
@[simps engine destination session pumps flow requested cancelled]
def pumping (r : Relay) (i : Nat) (closesClient : Bool) : Relay :=
  { r with
    connections := r.connections.modify i fun c => { c with reader := .taken }
    pumps := r.pumps ++ [{ connection := i, closesClient }] }

/-- The client's chunks are cancelled, which requests the close of the client. -/
@[simps]
def cancelling (r : Relay) : Relay :=
  { r with requested := r.requested || !r.cancelled, cancelled := true }

section changes

variable {r : Relay}

@[simp] theorem after_nil : r.after [] false = r := by
  ext1 <;> simp

theorem after_nil_of {asks : Bool} (h : asks = true → r.requested = true) :
    r.after [] asks = r := by
  ext1 <;> simp
  exact h

@[simp] theorem modify_none {f : Connection → Connection} : r.modify none f = r := rfl

@[simp] theorem withSession_self : r.withSession r.session = r := rfl

@[simp] theorem withSession_withSession {s s' : Session} :
    (r.withSession s).withSession s' = r.withSession s' := rfl

@[simp] theorem modify_withSession {s : Session} {i : Option Nat} {f : Connection → Connection} :
    (r.withSession s).modify i f = (r.modify i f).withSession s := rfl

@[simp] theorem after_withSession {s : Session} {h : List Happening} {asks : Bool} :
    (r.withSession s).after h asks = (r.after h asks).withSession s := rfl

@[simp] theorem cancelling_withSession {s : Session} :
    (r.withSession s).cancelling = r.cancelling.withSession s := rfl

@[simp] theorem pumping_withSession {s : Session} {i : Nat} {closesClient : Bool} :
    (r.withSession s).pumping i closesClient = (r.pumping i closesClient).withSession s := rfl

end changes

/-- A queue can be made for a connection. -/
def CanOpen (r : Relay) : Prop := validCapacity (max r.engine.capacity 1) = true

/-- Whether the reader of connection number `i` has handed out a chunk. -/
def delivered (r : Relay) (i : Nat) : Bool := (r.connections[i]?).any (·.delivered)

/-- Where the fallback connection goes. -/
def fallback (r : Relay) : Destination := r.destination.withHost r.engine.fallbackHost

/-! ### Lines -/

section line

variable {r : Relay} {i : Nat} {l l' : Line}

theorem line?_eq_some_iff :
    r.line? i = some l ↔ r.connections[i]? = some l.connection ∧ r.pumps[i]? = l.pump := by
  obtain ⟨c, p⟩ := l
  simp only [line?, Option.map_eq_some_iff, Line.mk.injEq]
  grind

theorem line?_eq_none_iff : r.line? i = none ↔ r.connections.length ≤ i := by
  simp [line?]

@[simp] theorem length_setLine_pumps : (r.setLine i l).pumps.length = r.pumps.length := by
  cases h : l.pump <;> simp [setLine, h]

@[simp] theorem length_modify_connections {i : Option Nat} {f : Connection → Connection} :
    (r.modify i f).connections.length = r.connections.length := by
  cases i <;> simp [modify]

theorem getElem?_modify_connections {i : Option Nat} {f : Connection → Connection} (j : Nat) :
    (r.modify i f).connections[j]? =
      if i = some j then (r.connections[j]?).map f else r.connections[j]? := by
  cases i with
  | none => simp [modify]
  | some i =>
    simp only [modify, List.getElem?_modify]
    grind

@[simp] theorem length_write_connections {chunk : Bytes} :
    (r.write i chunk).connections.length = r.connections.length := by
  simp [write]

@[simp] theorem length_opening_connections {d : Destination} :
    (r.opening d).connections.length = r.connections.length + 1 := by
  simp [opening]

@[simp] theorem length_pumping_connections {closesClient : Bool} :
    (r.pumping i closesClient).connections.length = r.connections.length := by
  simp [pumping]

theorem getElem?_write_connections {chunk : Bytes} (j : Nat) :
    (r.write i chunk).connections[j]? = if i = j then
      (r.connections[j]?).map fun c => { c with outbox := c.outbox ++ [chunk] }
    else r.connections[j]? := by
  simp only [write, List.getElem?_modify]
  grind

theorem getElem?_opening_connections {d : Destination} (j : Nat) :
    (r.opening d).connections[j]? = if j = r.connections.length then
      some (Connection.fresh d r.engine.capacity)
    else r.connections[j]? := by
  simp only [opening]
  grind

theorem getElem?_opening_self {d : Destination} :
    (r.opening d).connections[r.connections.length]? =
      some (Connection.fresh d r.engine.capacity) :=
  (getElem?_opening_connections _).trans (if_pos rfl)

theorem getElem?_pumping_connections {closesClient : Bool} (j : Nat) :
    (r.pumping i closesClient).connections[j]? = if i = j then
      (r.connections[j]?).map fun c => { c with reader := .taken }
    else r.connections[j]? := by
  simp only [pumping, List.getElem?_modify]
  grind

theorem getElem?_setLine_connections (hl : r.line? i = some l) (j : Nat) :
    (r.setLine i l').connections[j]? = if j = i then some l'.connection else r.connections[j]? := by
  have hc := (line?_eq_some_iff.mp hl).1
  simp only [setLine, List.getElem?_set]
  grind

theorem getElem?_setLine_pumps (hl : r.line? i = some l) (hp : l'.pump.isSome = l.pump.isSome)
    (j : Nat) : (r.setLine i l').pumps[j]? = if j = i then l'.pump else r.pumps[j]? := by
  have hl := (line?_eq_some_iff.mp hl).2
  cases h : l'.pump with
  | none =>
    simp only [setLine, h]
    grind
  | some p =>
    simp only [setLine, h, List.getElem?_set]
    grind

theorem setLine_pumps_of_eq (hp : l.pump = r.pumps[i]?) : (r.setLine i l).pumps = r.pumps := by
  cases h : l.pump with
  | none => simp only [setLine, h]
  | some p =>
    simp only [setLine, h]
    apply List.ext_getElem?
    grind

theorem line?_setLine (hl : r.line? i = some l) (hp : l'.pump.isSome = l.pump.isSome) (j : Nat) :
    (r.setLine i l').line? j = if j = i then some l' else r.line? j := by
  simp only [line?, getElem?_setLine_connections hl, getElem?_setLine_pumps hl hp]
  split <;> rfl

end line

/-! ### Steps -/

/-- What one move can do. -/
inductive Step (r : Relay) : Relay → Prop
  /-- A driver or a pump takes a step. -/
  | beside {i : Nat} {l l' : Line} {h : List Happening} {asks : Bool} :
      r.line? i = some l → l.Own i l' h asks → Step r ((r.setLine i l').after h asks)
  /-- Nothing that concerns data. -/
  | idle : Step r r
  | abort : Step r (r.withSession { r.session with abortRequested := true })
  /-- The client's chunks have ended or failed. -/
  | hearEnd {asks : Bool} : r.session.phase = .selecting → r.session.clientOpen = true →
      Step r ((r.withSession { r.session with clientOpen := false }).after [] asks)
  /-- The first chunk opens the first connection. -/
  | takeFirst {chunk : Bytes} : r.session.phase = .selecting → r.session.clientOpen = true →
      r.session.stage = .awaitingFirstChunk → r.CanOpen →
      Step r ((((r.after [.taken chunk] false).opening r.destination).pumping r.connections.length
        false).withSession ({ r.session with
          connected := true, stage := .connected, active := some r.connections.length,
          pump := some r.pumps.length }.prepare false chunk))
  /-- No connection can be opened for the first chunk. -/
  | crash {chunk : Bytes} : r.session.phase = .selecting → r.session.clientOpen = true →
      r.session.stage = .awaitingFirstChunk → ¬r.CanOpen →
      Step r (((r.after [.taken chunk] false).modify r.session.active .drop).withSession
        (r.session.gone .crashed))
  | takeNext {i : Nat} {chunk : Bytes} : r.session.phase = .selecting →
      r.session.clientOpen = true → r.session.stage ≠ .awaitingFirstChunk →
      r.session.active = some i →
      Step r ((r.after [.taken chunk] false).withSession (r.session.prepare (r.delivered i) chunk))
  | written {i : Nat} {chunk : Bytes} {kept : Bool} {c : Connection} :
      r.session.phase = .writing chunk kept → r.session.active = some i →
      r.connections[i]? = some c → c.writable = true → c.outbox.length < c.capacity →
      Step r ((r.write i chunk).withSession { r.session with
        chunksToRemote := r.session.chunksToRemote + 1, phase := .selecting })
  /-- The write of a chunk fails that is kept for a replay. -/
  | writeKept {i : Nat} {chunk : Bytes} {c : Connection} :
      r.session.phase = .writing chunk true → r.session.active = some i →
      r.connections[i]? = some c → c.writable = false →
      Step r ((r.after [.refused i chunk] false).withSession
        { r.session with phase := .selecting })
  /-- The write of a chunk fails for good: the client's chunks are cancelled. -/
  | writeLost {i : Nat} {chunk : Bytes} {c : Connection} :
      r.session.phase = .writing chunk false → r.session.active = some i →
      r.connections[i]? = some c → c.writable = false →
      Step r (((r.after [.refused i chunk] false).modify (some i) .drop).cancelling.withSession
        { r.session with active := none, clientOpen := false, phase := .selecting })
  | retry {k : Nat} {p : Pump} : r.session.phase = .selecting → r.session.pump = some k →
      r.pumps[k]? = some p → p.phase = .ended (.finished false) → r.session.retried = false →
      Step r (r.withSession { r.session with
        pump := none, hasIncomingData := false, retried := true, phase := .leavingFirst,
        stage := .retrying })
  | openFallback : r.session.phase = .leavingFirst →
      (∀ i, r.session.active = some i → ∃ c, r.connections[i]? = some c ∧ c.closed.isSome) →
      r.CanOpen →
      Step r (((r.modify r.session.active (·.takeClosed.2)).opening r.fallback).withSession
        { r.session with
          replay := r.session.replay.take.2
          phase := .replaying r.connections.length r.session.replay.chunks })
  | replayed {i : Nat} {chunk : Bytes} {rest : List Bytes} {c : Connection} :
      r.session.phase = .replaying i (chunk :: rest) → r.connections[i]? = some c →
      c.writable = true → c.outbox.length < c.capacity →
      Step r ((r.write i chunk).withSession { r.session with
        replayedChunks := r.session.replayedChunks + 1, phase := .replaying i rest })
  /-- A write of the replay fails, and the rest of it is lost. -/
  | replayStopped {i : Nat} {chunk : Bytes} {rest : List Bytes} {c : Connection} :
      r.session.phase = .replaying i (chunk :: rest) → r.connections[i]? = some c →
      c.writable = false →
      Step r ((r.after [.refused i chunk] false).withSession
        { r.session with phase := .replaying i [] })
  | adopt {i : Nat} {c : Connection} : r.session.phase = .replaying i [] →
      r.connections[i]? = some c → c.reader = .held →
      Step r ((((r.modify (some i) (·.takeClosed.2)).pumping i true).modify r.session.active
        .drop).withSession { r.session with
          pump := some r.pumps.length, active := some i, phase := .selecting })
  /-- The session ends with its pump. -/
  | finish {k : Nat} {p : Pump} {outcome : PumpOutcome} {asks : Bool} :
      r.session.phase = .selecting → r.session.pump = some k → r.pumps[k]? = some p →
      p.outcome? k = some outcome → (asks = true ↔ ∃ b, outcome = .finished b) →
      Step r (((r.after [] asks).modify r.session.active .drop).withSession
        ({ r.session with
          pump := none, hasIncomingData := outcome.delivered }.concluded r.destination
            (r.requested || asks)))
  /-- The session ends without a pump. -/
  | conclude : r.session.phase = .selecting → r.session.clientOpen = false →
      r.session.pump = none →
      Step r ((r.modify r.session.active .drop).withSession
        (r.session.concluded r.destination r.requested))
  | abandon : r.session.abortRequested = true → r.session.isOver = false →
      Step r (((r.modify r.session.target? .drop).modify r.session.active .drop).withSession
        (r.session.gone .aborted))

end Relay

end Tunnel
