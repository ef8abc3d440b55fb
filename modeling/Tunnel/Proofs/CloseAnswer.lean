import Mathlib.Data.Option.Basic
import Mathlib.Logic.Relator
import Tunnel.Proofs.History

/-!
# What the close of a client answers

Whether the channel's close succeeds or fails is told to the log and to nobody else. A client whose
close always succeeds goes through the same run, up to log lines.

## Main definitions

* `Lenient` — a client whose close always succeeds.
* `World.Alike` — two worlds that only differ in log lines and in what close will answer.

## Main statements

* `World.Alike.run?` — the same moves lead from alike worlds to alike worlds.
-/

namespace Tunnel

variable {σ : Type}

/-! ### Log lines -/

/-- Whether this is a log line. -/
def Happening.isLog : Happening → Bool
  | .logged _ => true
  | _ => false

@[simp] theorem Happening.isLog_log (level : Log.Level) (d : Destination) (text : String) :
    (Happening.log level d text).isLog = true := rfl

/-- All but log lines. -/
def unlogged (h : List Happening) : List Happening := h.filter fun e => !e.isLog

section unlogged

variable {e : Happening} {h h' : List Happening}

@[simp] theorem unlogged_nil : unlogged [] = [] := rfl

@[simp] theorem unlogged_append : unlogged (h ++ h') = unlogged h ++ unlogged h' :=
  List.filter_append ..

@[simp] theorem unlogged_reverse : unlogged h.reverse = (unlogged h).reverse :=
  List.filter_reverse ..

@[simp] theorem unlogged_cons :
    unlogged (e :: h) = (if e.isLog then [] else [e]) ++ unlogged h := by
  cases he : e.isLog <;> simp [unlogged, he]

end unlogged

/-! ### Lenient clients -/

/-- A client whose close always succeeds. -/
structure Lenient (σ : Type) where
  client : σ

instance [ClientChannel σ] : ClientChannel (Lenient σ) where
  readyState c := ClientChannel.readyState c.client
  send c data := (ClientChannel.send c.client data).map id .mk
  close c := (.ok (), ⟨(ClientChannel.close c.client).2⟩)

/-- The coordinator of the client when its close always succeeds. -/
def Coordinator.lenient (k : Coordinator σ) : Coordinator (Lenient σ) where
  client := ⟨k.client⟩
  destination := k.destination
  requested := k.requested

/-- The same has become of the coordinator, and the same has happened but for log lines. -/
structure Coordinator.Alike (r : Coordinator σ × List Happening)
    (r' : Coordinator (Lenient σ) × List Happening) : Prop where
  gate : r'.1 = r.1.lenient
  happened : unlogged r'.2 = unlogged r.2

namespace Coordinator.Alike

variable {k k₁ : Coordinator σ} {k' : Coordinator (Lenient σ)} {h₀ h₁ h h' : List Happening}

theorem cons {e e' : Happening} (a : Alike (k, h) (k', h')) (he : e.isLog = true)
    (he' : e'.isLog = true) : Alike (k, e :: h) (k', e' :: h') :=
  ⟨a.gate, by simpa [he, he'] using a.happened⟩

theorem append (a : Alike (k, h) (k', h')) (hh : unlogged h₁ = unlogged h₀) :
    Alike (k, h₀ ++ h) (k', h₁ ++ h') :=
  ⟨a.gate, by simp [hh, a.happened]⟩

end Coordinator.Alike

section client

variable [ClientChannel σ] (k : Coordinator σ)

theorem unlogged_safeClose :
    (safeClose k.lenient.client k.destination).2.1 = ⟨(safeClose k.client k.destination).2.1⟩ ∧
    unlogged (safeClose k.lenient.client k.destination).2.2 =
      unlogged (safeClose k.client k.destination).2.2 := by
  have hs : ClientChannel.readyState k.lenient.client = ClientChannel.readyState k.client := rfl
  have hc : ClientChannel.close k.lenient.client = (.ok (), ⟨(ClientChannel.close k.client).2⟩) :=
    rfl
  unfold safeClose callClose
  rw [hs, hc]
  split
  · rcases ClientChannel.close k.client with ⟨_ | _, client⟩ <;> exact ⟨rfl, by simp⟩
  · exact ⟨rfl, rfl⟩

/-- A request to close the client does the same whatever the close answers. -/
theorem Coordinator.alike_close (reason reason' : String) :
    Coordinator.Alike (k.close reason).2 (k.lenient.close reason').2 := by
  by_cases hr : k.requested
  · have hr' : k.lenient.requested := hr
    rw [close_of_requested hr, close_of_requested hr']
    exact ⟨rfl, rfl⟩
  · have hr : k.requested = false := by simpa using hr
    have hr' : k.lenient.requested = false := hr
    have hd : k.lenient.destination = k.destination := rfl
    obtain ⟨hc, hh⟩ := unlogged_safeClose k
    rw [close_of_not_requested hr, close_of_not_requested hr', hd]
    constructor
    · dsimp only
      rw [hc]
      rfl
    · simp [Caller.step.finished, hh]

theorem alike_produce (cancelled : Bool) (e : ChannelEvent) :
    (ChunkStream.produce cancelled k.lenient e).1 = (ChunkStream.produce cancelled k e).1 ∧
    Coordinator.Alike (ChunkStream.produce cancelled k e).2
      (ChunkStream.produce cancelled k.lenient e).2 := by
  cases e with
  | message data => exact ⟨rfl, rfl, rfl⟩
  | close => exact ⟨rfl, k.alike_close _ _⟩
  | error e => exact ⟨rfl, (k.alike_close _ _).cons rfl rfl⟩

theorem alike_consume (cancelled : Bool) (events : List ChannelEvent) :
    (ChunkStream.consume cancelled k.lenient events).1 = (ChunkStream.consume cancelled k events).1 ∧
    (ChunkStream.consume cancelled k.lenient events).2.1 =
      (ChunkStream.consume cancelled k events).2.1 ∧
    Coordinator.Alike (ChunkStream.consume cancelled k events).2.2
      (ChunkStream.consume cancelled k.lenient events).2.2 := by
  induction events generalizing k with
  | nil => exact ⟨rfl, rfl, rfl, rfl⟩
  | cons e rest ih =>
    obtain ⟨hi, hk, hh⟩ := alike_produce k cancelled e
    unfold ChunkStream.consume
    rcases hp : ChunkStream.produce cancelled k e with ⟨item, k₁, now⟩
    rcases hp' : ChunkStream.produce cancelled k.lenient e with ⟨item', k', now'⟩
    rw [hp, hp'] at hi hk hh
    cases hi
    cases hk
    cases item with
    | some item => exact ⟨rfl, rfl, rfl, hh⟩
    | none =>
      obtain ⟨hi, hw, ha⟩ := ih k₁
      exact ⟨hi, hw, ha.append hh⟩

theorem alike_poll (s : ChunkStream) :
    (s.poll k.lenient).1 = (s.poll k).1 ∧ (s.poll k.lenient).2.1 = (s.poll k).2.1 ∧
    Coordinator.Alike (s.poll k).2.2 (s.poll k.lenient).2.2 := by
  unfold ChunkStream.poll
  split
  · exact ⟨rfl, rfl, rfl, rfl⟩
  · obtain ⟨hi, hw, ha⟩ := alike_consume k s.cancelled s.events.waiting
    rcases hp : ChunkStream.consume s.cancelled k s.events.waiting with ⟨item, waiting, r⟩
    rcases hp' : ChunkStream.consume s.cancelled k.lenient s.events.waiting with ⟨item', waiting', r'⟩
    rw [hp, hp'] at hi hw ha
    cases hi
    cases hw
    dsimp only
    split
    · exact ⟨rfl, rfl, ha⟩
    · exact ⟨rfl, rfl, ha⟩
    · split <;> exact ⟨rfl, rfl, ha⟩

theorem alike_cancel (s : ChunkStream) (reason : String) :
    (s.cancel k.lenient reason).2.1 = (s.cancel k reason).2.1 ∧
    Coordinator.Alike (s.cancel k reason).2.2 (s.cancel k.lenient reason).2.2 := by
  unfold ChunkStream.cancel
  split
  · exact ⟨rfl, rfl, rfl⟩
  · exact ⟨rfl, (k.alike_close _ _).cons rfl rfl⟩

theorem alike_sendChunk (chunk : Bytes) :
    (sendChunk k.lenient chunk).1 = (sendChunk k chunk).1 ∧
    Coordinator.Alike (sendChunk k chunk).2 (sendChunk k.lenient chunk).2 := by
  have hs : ClientChannel.readyState k.lenient.client = ClientChannel.readyState k.client := rfl
  have hc : ClientChannel.send k.lenient.client chunk =
      (ClientChannel.send k.client chunk).map id .mk := rfl
  unfold sendChunk
  rw [hs, hc]
  dsimp only
  split
  · rcases ClientChannel.send k.client chunk with ⟨_ | e | reason, client⟩ <;>
      exact ⟨rfl, rfl, rfl⟩
  · exact ⟨rfl, rfl, rfl⟩

theorem alike_deliver (item : Except IoError Bytes) :
    (deliver k.lenient item).1 = (deliver k item).1 ∧
    Coordinator.Alike (deliver k item).2 (deliver k.lenient item).2 := by
  unfold deliver
  cases item with
  | error e => exact ⟨rfl, (k.alike_close _ _).cons rfl rfl⟩
  | ok chunk =>
    obtain ⟨hd, hk, hh⟩ := alike_sendChunk k chunk
    rcases hs : sendChunk k chunk with ⟨delivery, k₁, now⟩
    rcases hs' : sendChunk k.lenient chunk with ⟨delivery', k', now'⟩
    rw [hs, hs'] at hd hk hh
    cases hd
    cases hk
    dsimp only
    rw [hs, hs']
    cases delivery with
    | sent | crashed => exact ⟨rfl, rfl, hh⟩
    | failed e => exact ⟨rfl, ((k₁.alike_close _ _).cons rfl rfl).append hh⟩

end client

/-! ### Drivers and pumps -/

namespace Plumbing

/-- The same but for log lines. -/
structure Alike (q : Plumbing σ) (q' : Plumbing (Lenient σ)) : Prop where
  gate : q'.gate = q.gate.lenient
  transport : q'.transport = q.transport
  pumps : q'.pumps = q.pumps
  trace : unlogged q'.trace = unlogged q.trace

namespace Alike

variable {q : Plumbing σ} {q' : Plumbing (Lenient σ)} {h h' : List Happening}

theorem note (a : q.Alike q') (hh : unlogged h' = unlogged h) : (q.note h).Alike (q'.note h') where
  gate := a.gate
  transport := a.transport
  pumps := a.pumps
  trace := by simp [Plumbing.note, hh, a.trace]

theorem log (a : q.Alike q') (level : Log.Level) (text : String) :
    (q.log level text).Alike (q'.log level text) := a.note (by simp)

theorem withTransport (a : q.Alike q') (r : Transport × List Happening) :
    (q.withTransport r).Alike (q'.withTransport r) where
  gate := a.gate
  transport := rfl
  pumps := a.pumps
  trace := by simp [Plumbing.withTransport, Plumbing.note, a.trace]

theorem dropReader (a : q.Alike q') (i : Nat) : (q.dropReader i).Alike (q'.dropReader i) where
  gate := a.gate
  transport := by simp [Plumbing.dropReader, a.transport]
  pumps := a.pumps
  trace := a.trace

theorem dropConnection (a : q.Alike q') (i : Nat) :
    (q.dropConnection i).Alike (q'.dropConnection i) where
  gate := a.gate
  transport := by simp [Plumbing.dropConnection, a.transport]
  pumps := a.pumps
  trace := a.trace

theorem setPump (a : q.Alike q') (k : Nat) (p : Pump) : (q.setPump k p).Alike (q'.setPump k p) where
  gate := a.gate
  transport := a.transport
  pumps := by simp [Plumbing.setPump, a.pumps]
  trace := a.trace

theorem endPump (a : q.Alike q') (k : Nat) (p : Pump) (outcome : PumpOutcome) :
    (q.endPump k p outcome).Alike (q'.endPump k p outcome) := (a.dropReader _).setPump k _

theorem crashPump (a : q.Alike q') (k : Nat) (p : Pump) (reason : String) :
    (q.crashPump k p reason).Alike (q'.crashPump k p reason) := (a.dropReader _).setPump k _

theorem work (a : q.Alike q') {k : Coordinator σ} {k' : Coordinator (Lenient σ)}
    (hk : Coordinator.Alike (k, h) (k', h')) :
    ({ q with gate := k }.note h).Alike ({ q' with gate := k' }.note h') :=
  note ⟨hk.gate, a.transport, a.pumps, a.trace⟩ hk.happened

variable [ClientChannel σ]

theorem close (a : q.Alike q') (reason : String) : (q.close reason).Alike (q'.close reason) := by
  have hk := q.gate.alike_close reason reason
  rw [← a.gate] at hk
  exact a.work hk

theorem pumpItem? (a : q.Alike q') (k : Nat) (p : Pump) :
    Option.Rel Alike (q.pumpItem? k p) (q'.pumpItem? k p) := by
  unfold Plumbing.pumpItem?
  rw [a.transport]
  split
  · exact .none
  · exact .some (((a.withTransport _).log _ _).endPump _ _ _)
  · rename_i item transport happened _
    have ht := a.withTransport (transport, happened)
    obtain ⟨hd, hk⟩ := alike_deliver q.gate item
    rw [← a.gate] at hd hk
    dsimp only
    have hg : (q.withTransport (transport, happened)).gate = q.gate := rfl
    have hg' : (q'.withTransport (transport, happened)).gate = q'.gate := rfl
    rw [hg, hg']
    rcases he : deliver q.gate item with ⟨delivery, k₁, now⟩
    rcases he' : deliver q'.gate item with ⟨delivery', k', now'⟩
    rw [he, he'] at hd hk
    obtain rfl : delivery' = delivery := hd
    have hw := ht.work hk
    cases delivery' with
    | sent => exact .some (hw.setPump _ _)
    | failed e => exact .some (hw.endPump _ _ _)
    | crashed reason => exact .some (hw.crashPump _ _ _)

theorem settlePump? (a : q.Alike q') (k : Nat) (p : Pump) (outcome : PumpOutcome) :
    Option.Rel Alike (q.settlePump? k p outcome) (q'.settlePump? k p outcome) := by
  unfold Plumbing.settlePump?
  rw [a.transport]
  cases q.transport.closed? p.connection with
  | none => exact .none
  | some closed =>
    cases closed with
    | ok => exact .some ((a.close _).setPump _ _)
    | error e => exact .some (((a.log _ _).close _).setPump _ _)

theorem step? (a : q.Alike q') (task : Task) : Option.Rel Alike (q.step? task) (q'.step? task) := by
  cases task with
  | driver i part =>
    unfold Plumbing.step?
    dsimp only
    rw [a.transport]
    cases q.transport.step? i part with
    | none => exact .none
    | some r => exact .some (a.withTransport r)
  | pump k =>
    change Option.Rel Alike (q.pump? k) (q'.pump? k)
    unfold pump?
    rw [a.pumps]
    cases q.pumps[k]? with
    | none => exact .none
    | some p =>
      dsimp only [Option.bind_some]
      split
      · exact a.pumpItem? k p
      · exact a.settlePump? k p _
      all_goals exact .none

end Alike

end Plumbing

/-! ### Worlds -/

namespace World

/-- The same but for log lines. -/
structure Alike (w : World σ) (v : World (Lenient σ)) : Prop
    extends w.toPlumbing.Alike v.toPlumbing where
  engine : v.engine = w.engine
  chunks : v.chunks = w.chunks
  session : v.session = w.session

def Outside.lenient : Outside σ → Outside (Lenient σ)
  | .client next => .client ⟨next⟩
  | .event e => .event e
  | .noMoreEvents => .noMoreEvents
  | .peer n next => .peer n next
  | .abort => .abort

/-- The same move, with what becomes of the client. -/
def Move.lenient : Move σ → Move (Lenient σ)
  | .task t => .task t
  | .outside o => .outside o.lenient

namespace Alike

variable {w : World σ} {v : World (Lenient σ)} {h h' : List Happening}

theorem note (a : w.Alike v) (hh : unlogged h' = unlogged h) : (w.note h).Alike (v.note h') :=
  ⟨a.toAlike.note hh, a.engine, a.chunks, a.session⟩

theorem log (a : w.Alike v) (level : Log.Level) (text : String) :
    (w.log level text).Alike (v.log level text) :=
  ⟨a.toAlike.log level text, a.engine, a.chunks, a.session⟩

theorem withTransport (a : w.Alike v) (r : Transport × List Happening) :
    (w.withTransport r).Alike (v.withTransport r) :=
  ⟨a.toAlike.withTransport r, a.engine, a.chunks, a.session⟩

theorem plumbing (a : w.Alike v) {q : Plumbing σ} {q' : Plumbing (Lenient σ)} (b : q.Alike q') :
    ({ w with toPlumbing := q } : World σ).Alike { v with toPlumbing := q' } :=
  ⟨b, a.engine, a.chunks, a.session⟩

theorem mapTransport (a : w.Alike v) (f : Transport → Transport) :
    ({ w with transport := f w.transport } : World σ).Alike { v with transport := f v.transport } :=
  a.plumbing ⟨a.gate, congrArg f a.transport, a.pumps, a.trace⟩

theorem withSession (a : w.Alike v) (f : Session → Session) :
    (w.withSession f).Alike (v.withSession f) :=
  ⟨a.toAlike, a.engine, a.chunks, congrArg f a.session⟩

theorem setPhase (a : w.Alike v) (phase : Session.Phase) :
    (w.setPhase phase).Alike (v.setPhase phase) := a.withSession _

theorem enter (a : w.Alike v) (next : Stage) : (w.enter next).Alike (v.enter next) := by
  unfold World.enter
  rw [a.session]
  split
  · exact a
  · exact (a.log _ _).withSession _

theorem setActive (a : w.Alike v) (active : Option Nat) :
    (w.setActive active).Alike (v.setActive active) := by
  have hs : v.session.active = w.session.active := congrArg Session.active a.session
  unfold World.setActive
  rw [hs]
  cases w.session.active with
  | none => exact a.withSession _
  | some i => exact (a.plumbing (a.toAlike.dropConnection i)).withSession _

theorem mapChunks (a : w.Alike v) (f : ChunkStream → ChunkStream) :
    ({ w with chunks := f w.chunks } : World σ).Alike { v with chunks := f v.chunks } :=
  ⟨a.toAlike, a.engine, congrArg f a.chunks, a.session⟩

theorem dropEvents (a : w.Alike v) : w.dropEvents.Alike v.dropEvents :=
  a.mapChunks fun s => { s with events := s.events.dropReceiver }

theorem release (a : w.Alike v) (last : Session.Phase) :
    (w.release last).Alike (v.release last) := by
  have hs : v.session.phase = w.session.phase := congrArg Session.phase a.session
  unfold World.release
  rw [hs]
  cases w.session.phase with
  | replaying i _ =>
    exact (((a.plumbing (a.toAlike.dropConnection i)).setActive _).dropEvents).setPhase _
  | selecting | writing | leavingFirst | ended | aborted | crashed =>
    exact ((a.setActive _).dropEvents).setPhase _

theorem destination_eq (a : w.Alike v) : v.gate.destination = w.gate.destination := by
  rw [a.gate]
  rfl

theorem conclude (a : w.Alike v) : w.conclude.Alike v.conclude := by
  have b := a.enter .done
  have hr : (v.enter .done).gate.requested = (w.enter .done).gate.requested := by
    rw [b.gate]
    rfl
  unfold World.conclude
  dsimp only
  rw [b.destination_eq, hr, b.session]
  exact (b.log _ _).release _

theorem finish (a : w.Alike v) : w.finish.Alike v.finish := (a.setActive none).conclude

theorem open? (a : w.Alike v) (d : Destination) :
    Option.Rel (fun r r' => r'.1 = r.1 ∧ r.2.Alike r'.2) (w.open? d) (v.open? d) := by
  unfold World.open?
  rw [a.transport, a.engine]
  cases w.transport.open? d w.engine.capacity with
  | none => exact .none
  | some r => exact .some ⟨rfl, a.withTransport r.2⟩

theorem startPump (a : w.Alike v) (i : Nat) (closesClient : Bool) :
    (w.startPump i closesClient).Alike (v.startPump i closesClient) where
  gate := a.gate
  transport := by simp [World.startPump, Plumbing.startPump, World.withSession, a.transport]
  pumps := by simp [World.startPump, Plumbing.startPump, World.withSession, a.pumps]
  trace := a.trace
  engine := a.engine
  chunks := a.chunks
  session := by simp [World.startPump, Plumbing.startPump, World.withSession, a.session, a.pumps]

theorem openFallback (a : w.Alike v) (closed : Except IoError Unit) :
    (w.openFallback closed).Alike (v.openFallback closed) := by
  have hok : ∀ {w : World σ} {v : World (Lenient σ)}, w.Alike v →
      (w.openFallback (.ok ())).Alike (v.openFallback (.ok ())) := by
    intro w v a
    unfold World.openFallback
    dsimp only
    rw [a.destination_eq, a.engine]
    have hn := a.note (h := [.log .debug (w.gate.destination.withHost w.engine.fallbackHost)
      "connecting via fallback egress"]) rfl
    have ho := hn.open? (w.gate.destination.withHost w.engine.fallbackHost)
    revert ho
    generalize World.open? _ _ = r, World.open? _ _ = r'
    rintro (@⟨⟨i, w'⟩, ⟨i', v'⟩, hi, b⟩ | _)
    · obtain rfl : i' = i := hi
      dsimp only
      rw [b.session]
      exact (b.log _ _).withSession _
    · exact hn.release _
  cases closed with
  | ok => exact hok a
  | error e => exact hok (a.log _ _)

theorem leaveFirst? (a : w.Alike v) : Option.Rel Alike w.leaveFirst? v.leaveFirst? := by
  have hs : v.session.active = w.session.active := congrArg Session.active a.session
  unfold World.leaveFirst?
  rw [hs]
  cases w.session.active with
  | none => exact .some (a.openFallback _)
  | some i =>
    have hc : v.transport.closed? i = w.transport.closed? i := by rw [a.transport]
    dsimp only
    rw [hc]
    cases w.transport.closed? i with
    | none => exact .none
    | some closed => exact .some ((a.mapTransport fun t => t.modifyConnection i _).openFallback closed)

theorem adopt (a : w.Alike v) (i : Nat) : (w.adopt i).Alike (v.adopt i) :=
  (((a.mapTransport fun t => t.modifyConnection i _).startPump i true).setActive _).setPhase _

theorem replay? (a : w.Alike v) (i : Nat) (rest : List Bytes) :
    Option.Rel Alike (w.replay? i rest) (v.replay? i rest) := by
  cases rest with
  | nil => exact .some (a.adopt i)
  | cons chunk rest =>
    have ho : v.transport.offer? i chunk = w.transport.offer? i chunk := by rw [a.transport]
    unfold World.replay?
    dsimp only
    rw [ho]
    rcases w.transport.offer? i chunk with _ | ⟨_ | e, result⟩
    · exact .none
    · have hn := a.note (h := [.refused i chunk]) rfl
      have hd := hn.destination_eq
      have ht : (v.note [.refused i chunk]).transport.destination? i =
          (w.note [.refused i chunk]).transport.destination? i := by rw [hn.transport]
      have hr : (v.note [.refused i chunk]).session.replayedChunks =
          (w.note [.refused i chunk]).session.replayedChunks := by rw [hn.session]
      dsimp only [Option.map_some]
      rw [hd, ht, hr]
      exact .some ((hn.log _ _).setPhase _)
    · exact .some (((a.withTransport _).log _ _).withSession _)

theorem abandon? (a : w.Alike v) : Option.Rel Alike w.abandon? v.abandon? := by
  unfold World.abandon?
  rw [a.session]
  split
  iterate 3 exact .none
  split
  · exact .some (a.release _)
  · exact .none

theorem finish? (a : w.Alike v) : Option.Rel Alike w.finish? v.finish? := by
  unfold World.finish?
  rw [a.session]
  split
  · exact .some a.conclude
  · exact .none

/-- The client's chunks and the coordinator work together. -/
theorem work (a : w.Alike v) {k : Coordinator σ} {k' : Coordinator (Lenient σ)} (s : ChunkStream)
    (hk : Coordinator.Alike (k, h) (k', h')) :
    ({ w with chunks := s, gate := k }.note h : World σ).Alike
      ({ v with chunks := s, gate := k' }.note h') :=
  ⟨a.toAlike.work hk, a.engine, rfl, a.session⟩

variable [ClientChannel σ]

theorem close (a : w.Alike v) (reason : String) : (w.close reason).Alike (v.close reason) :=
  a.plumbing (a.toAlike.close reason)

theorem cancel (a : w.Alike v) (reason : String) : (w.cancel reason).Alike (v.cancel reason) := by
  obtain ⟨hs, hk⟩ := alike_cancel w.gate w.chunks reason
  rw [← a.gate] at hs hk
  unfold World.cancel
  rw [a.chunks]
  rcases he : w.chunks.cancel w.gate reason with ⟨first, s, k, happened⟩
  rcases he' : w.chunks.cancel v.gate reason with ⟨first', s', k', happened'⟩
  rw [he, he'] at hs hk
  obtain rfl : s' = s := hs
  exact a.work s' hk

theorem failForwarding (a : w.Alike v) (e : SessionError) :
    (w.failForwarding e).Alike (v.failForwarding e) :=
  ((a.log _ _).cancel _).withSession _

theorem beginWrite (a : w.Alike v) (chunk : Bytes) :
    (w.beginWrite chunk).Alike (v.beginWrite chunk) := by
  have hs : v.session.active = w.session.active := congrArg Session.active a.session
  unfold World.beginWrite
  rw [hs]
  cases w.session.active with
  | none => exact a.failForwarding _
  | some i =>
    have hr : v.session.retried = w.session.retried := congrArg Session.retried a.session
    have hd : v.transport.delivered i = w.transport.delivered i := by rw [a.transport]
    have hb : v.session.replay = w.session.replay := congrArg Session.replay a.session
    dsimp only
    rw [hr, hd, hb]
    split
    · exact a.setPhase _
    · exact a.withSession _

theorem forward (a : w.Alike v) (chunk : Bytes) : (w.forward chunk).Alike (v.forward chunk) := by
  have hs : v.session.stage = w.session.stage := congrArg Session.stage a.session
  unfold World.forward
  rw [hs]
  split
  · dsimp only
    rw [a.destination_eq]
    have hn := a.note (h := [.log .debug w.gate.destination "connecting"]) rfl
    have ho := hn.open? (w.note [.log .debug w.gate.destination "connecting"]).gate.destination
    rw [hn.destination_eq]
    revert ho
    generalize World.open? _ _ = r, World.open? _ _ = r'
    rintro (@⟨⟨i, w'⟩, ⟨i', v'⟩, hi, b⟩ | _)
    · obtain rfl : i' = i := hi
      exact ((((b.withSession _).enter _).startPump i' false).withSession _).beginWrite chunk
    · exact hn.release _
  · exact a.beginWrite chunk

theorem take? (a : w.Alike v) : Option.Rel Alike w.take? v.take? := by
  have hp : v.session.phase = w.session.phase := congrArg Session.phase a.session
  have ho : v.session.clientOpen = w.session.clientOpen := congrArg Session.clientOpen a.session
  have hr : v.chunks.ready = w.chunks.ready := congrArg ChunkStream.ready a.chunks
  unfold World.take?
  rw [hp, ho, hr]
  split
  · obtain ⟨hi, hs, hk⟩ := alike_poll w.gate w.chunks
    rw [← a.gate] at hi hs hk
    rw [a.chunks]
    rcases he : w.chunks.poll w.gate with ⟨item, s, k, happened⟩
    rcases he' : w.chunks.poll v.gate with ⟨item', s', k', happened'⟩
    rw [he, he'] at hi hs hk
    obtain rfl : item' = item := hi
    obtain rfl : s' = s := hs
    have hw := a.work s' hk
    cases item' with
    | chunk data => exact .some ((hw.note rfl).forward data)
    | ended | failed e => exact .some ((hw.log _ _).withSession _)
    | pending => exact .some hw
  · exact .none

theorem resumeWrite? (a : w.Alike v) (chunk : Bytes) (kept : Bool) :
    Option.Rel Alike (w.resumeWrite? chunk kept) (v.resumeWrite? chunk kept) := by
  have hs : v.session.active = w.session.active := congrArg Session.active a.session
  unfold World.resumeWrite?
  rw [hs]
  cases w.session.active with
  | none => exact .some (a.failForwarding _)
  | some i =>
    have ho : v.transport.offer? i chunk = w.transport.offer? i chunk := by rw [a.transport]
    dsimp only
    rw [ho]
    rcases w.transport.offer? i chunk with _ | ⟨_ | e, result⟩
    · exact .none
    · have hn := a.note (h := [.refused i chunk]) rfl
      have hd := hn.destination_eq
      have ht : (v.note [.refused i chunk]).transport.destination? i =
          (w.note [.refused i chunk]).transport.destination? i := by rw [hn.transport]
      dsimp only [Option.map_some]
      rw [hd, ht]
      cases kept with
      | true => exact .some ((hn.log _ _).setPhase _)
      | false => exact .some ((hn.setActive none).failForwarding _)
    · exact .some ((a.withTransport _).withSession _)

theorem resume? (a : w.Alike v) : Option.Rel Alike w.resume? v.resume? := by
  unfold World.resume?
  rw [a.session]
  split
  · exact a.resumeWrite? _ _
  · exact a.leaveFirst?
  · exact a.replay? _ _
  all_goals exact .none

theorem pumpEnded (a : w.Alike v) (outcome : PumpOutcome) :
    (w.pumpEnded outcome).Alike (v.pumpEnded outcome) := by
  have b := a.withSession ({ · with pump := none, hasIncomingData := outcome.delivered })
  unfold World.pumpEnded
  revert b
  generalize World.withSession w _ = w', World.withSession v _ = v'
  intro b
  have hr : v'.session.retried = w'.session.retried := congrArg Session.retried b.session
  have hs : ClientChannel.readyState v'.gate.client = ClientChannel.readyState w'.gate.client := by
    rw [b.gate]
    rfl
  cases outcome with
  | failed delivered e => exact (b.log _ _).finish
  | finished delivered =>
    dsimp only
    rw [hr, hs]
    split
    · exact (b.close _).finish
    · split
      · exact (b.withSession _).enter _
      · exact ((b.log _ _).close _).finish

theorem join? (a : w.Alike v) : Option.Rel Alike w.join? v.join? := by
  unfold World.join?
  rw [a.session, a.pumps]
  split
  · cases w.session.pump with
    | none => exact .none
    | some k =>
      dsimp only [Option.bind_some]
      cases (w.pumps[k]?).bind (·.outcome? k) with
      | none => exact .none
      | some outcome => exact .some (a.pumpEnded outcome)
  · exact .none

theorem sessionStep? (a : w.Alike v) (branch : Branch) :
    Option.Rel Alike (w.sessionStep? branch) (v.sessionStep? branch) := by
  unfold World.sessionStep?
  rw [a.session]
  split
  · cases branch with
    | abandon => exact a.abandon?
    | take | join | resume | finish => exact .none
  · cases branch with
    | take => exact a.take?
    | join => exact a.join?
    | resume => exact a.resume?
    | finish => exact a.finish?
    | abandon => exact .none

omit [ClientChannel σ] in
theorem outside (a : w.Alike v) (o : Outside σ) :
    (w.outside o).Alike (v.outside o.lenient) := by
  cases o with
  | client next =>
    have hk : ({ v.gate with client := ⟨next⟩ } : Coordinator (Lenient σ)) =
        { w.gate with client := next }.lenient := by
      rw [a.gate]
      rfl
    exact a.plumbing ⟨hk, a.transport, a.pumps, a.trace⟩
  | event e => exact a.mapChunks fun s => { s with events := (s.events.offer e).2 }
  | noMoreEvents => exact a.mapChunks fun s => { s with events := s.events.dropSender }
  | peer n next => exact a.mapTransport (·.setPeer n next)
  | abort => exact a.withSession ({ · with abortRequested := true })

theorem move? (a : w.Alike v) (m : Move σ) : Option.Rel Alike (w.move? m) (v.move? m.lenient) := by
  cases m with
  | task t =>
    cases t with
    | session branch => exact a.sessionStep? branch
    | beside task =>
      have hp := a.toAlike.step? task
      change Option.Rel Alike ((w.toPlumbing.step? task).map _) ((v.toPlumbing.step? task).map _)
      revert hp
      generalize w.toPlumbing.step? task = r, v.toPlumbing.step? task = r'
      rintro (⟨b⟩ | _)
      · exact .some (a.plumbing b)
      · exact .none
  | outside o => exact .some (a.outside o)

/-- The same moves lead from alike worlds to alike worlds. -/
theorem run? (a : w.Alike v) (moves : List (Move σ)) :
    Option.Rel Alike (w.run? moves) (v.run? (moves.map Move.lenient)) := by
  induction moves generalizing w v with
  | nil => exact .some a
  | cons m rest ih =>
    have hm := a.move? m
    change Option.Rel Alike ((w.move? m).bind _) ((v.move? m.lenient).bind _)
    revert hm
    generalize w.move? m = r, v.move? m.lenient = r'
    rintro (⟨b⟩ | _)
    · exact ih b
    · exact .none

end Alike

end World

end Tunnel
