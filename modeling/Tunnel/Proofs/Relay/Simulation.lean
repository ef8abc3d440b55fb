import Tunnel.Proofs.Client
import Tunnel.Proofs.Line.Driver
import Tunnel.Proofs.Relay.Lines

/-!
# Moves as steps of the relay

Every move of a world is a step of its relay. The functions of the session and of the tasks
beside it are opened here and nowhere else.

## Main statements

* `World.step_of_driver`, `World.step_of_pump` — a task beside the session.
* `World.step_of_session` — the session.
* `World.step_of_move` — any move.
-/

namespace Tunnel

namespace World

variable {σ : Type} {w w' : World σ}

/-! ### Small changes -/

@[simp] theorem relay_session (w : World σ) : w.relay.session = w.session := rfl

@[simp] theorem session_note (w : World σ) (h : List Happening) : (w.note h).session = w.session :=
  rfl

@[simp] theorem gate_note (w : World σ) (h : List Happening) : (w.note h).gate = w.gate := rfl

@[simp] theorem gate_log (w : World σ) (level : Log.Level) (text : String) :
    (w.log level text).gate = w.gate := rfl

@[simp] theorem session_log (w : World σ) (level : Log.Level) (text : String) :
    (w.log level text).session = w.session := rfl

@[simp] theorem session_withSession (w : World σ) (f : Session → Session) :
    (w.withSession f).session = f w.session := rfl

@[simp] theorem session_dropEvents (w : World σ) : w.dropEvents.session = w.session := rfl

@[simp] theorem session_setActive (w : World σ) (active : Option Nat) :
    (w.setActive active).session = { w.session with active } := by
  unfold setActive
  cases w.session.active <;> rfl

@[simp] theorem session_enter (w : World σ) (next : Stage) :
    (w.enter next).session = { w.session with stage := next } := by
  unfold enter
  split
  · rename_i hs
    subst hs
    rfl
  · rfl

@[simp] theorem session_startPump (w : World σ) (i : Nat) (closesClient : Bool) :
    (w.startPump i closesClient).session = { w.session with pump := some w.pumps.length } := rfl

@[simp] theorem relay_note (w : World σ) (h : List Happening) :
    (w.note h).relay = w.relay.after (h.filter Happening.concernsData) false := by
  ext1 <;> simp [relay, Relay.after, history, note, Plumbing.note]

@[simp] theorem relay_log (w : World σ) (level : Log.Level) (text : String) :
    (w.log level text).relay = w.relay := by
  have h : (w.log level text) = w.note [.log level w.gate.destination text] := rfl
  ext1 <;> simp [h]

@[simp] theorem relay_withSession (w : World σ) (f : Session → Session) :
    (w.withSession f).relay = w.relay.withSession (f w.session) := rfl

@[simp] theorem relay_dropEvents (w : World σ) : w.dropEvents.relay = w.relay := rfl

@[simp] theorem relay_dropConnection (w : World σ) (i : Nat) :
    ({ w with toPlumbing := w.toPlumbing.dropConnection i } : World σ).relay =
      w.relay.modify (some i) .drop := rfl

@[simp] theorem relay_enter (w : World σ) (next : Stage) :
    (w.enter next).relay = w.relay.withSession { w.session with stage := next } := by
  unfold enter
  split
  · rename_i hs
    subst hs
    rfl
  · simp

@[simp] theorem relay_setActive (w : World σ) (active : Option Nat) :
    (w.setActive active).relay =
      (w.relay.modify w.session.active .drop).withSession { w.session with active } := by
  unfold setActive
  cases w.session.active <;> rfl

theorem relay_release (w : World σ) (last : Session.Phase) :
    (w.release last).relay =
      ((w.relay.modify w.session.target? .drop).modify w.session.active .drop).withSession
        (w.session.gone last) := by
  unfold release
  split
  · rename_i i _ hp
    simp [Session.target?, hp, setPhase, Session.gone]
  · rename_i hp
    have ht : w.session.target? = none := by
      cases hph : w.session.phase <;> simp_all [Session.target?]
    simp [ht, setPhase, Session.gone]

theorem relay_startPump (w : World σ) (i : Nat) (closesClient : Bool)
    (hr : ∀ c, w.transport.connections[i]? = some c → c.reader = .held) :
    (w.startPump i closesClient).relay =
      (w.relay.pumping i closesClient).withSession
        { w.session with pump := some w.pumps.length } := by
  have hc : w.transport.connections.modify i (·.takeReader.2) =
      w.transport.connections.modify i fun c => { c with reader := .taken } := by
    apply List.ext_getElem?
    intro j
    rw [List.getElem?_modify, List.getElem?_modify]
    split
    · rename_i hj
      subst hj
      cases hc : w.transport.connections[i]? with
      | none => rfl
      | some c => simp [Connection.takeReader, hr c hc]
    · rfl
  ext1 <;> try rfl
  exact hc

theorem relay_open? (w : World σ) (d : Destination) :
    match w.open? d with
    | some (i, w') => w.relay.CanOpen ∧ i = w.relay.connections.length ∧
        w'.relay = w.relay.opening d ∧ w'.session = w.session ∧ w'.gate = w.gate
    | none => ¬w.relay.CanOpen := by
  by_cases hc : w.relay.CanOpen
  · have ho : w.open? d = some (w.transport.connections.length, w.withTransport
        ({ w.transport with connections := w.transport.connections ++
          [Connection.fresh d w.engine.capacity] }, [.opened w.transport.connections.length d])) := by
      unfold open? Transport.open?
      exact congrArg _ (if_pos hc)
    rw [ho]
    refine ⟨hc, rfl, ?_, rfl, rfl⟩
    ext1 <;> try rfl
    simp [relay, history, withTransport, Plumbing.withTransport, Plumbing.note,
      Happening.concernsData]
  · have ho : w.open? d = none := by
      unfold open? Transport.open?
      exact congrArg _ (if_neg hc)
    rw [ho]
    exact hc

theorem relay_conclude (w : World σ) (hp : w.session.phase = .selecting) :
    w.conclude.relay = (w.relay.modify w.session.active .drop).withSession
      (w.session.concluded w.gate.destination w.gate.requested) := by
  have hg : (w.enter .done).gate = w.gate := by
    unfold enter
    split <;> rfl
  simp [conclude, relay_release, Session.target?, hp, hg]
  rfl

/-- Nothing but the coordinator and the queue of the client's events changes. -/
theorem relay_of_quiet {k : Coordinator σ} {chunks : ChunkStream} {h : List Happening}
    (hq : w.gate.Quiet k h) (hc : chunks.cancelled = w.chunks.cancelled) :
    ({ w with chunks, gate := k }.note h : World σ).relay = w.relay.after [] k.requested := by
  obtain ⟨hd, hr, hh⟩ := hq
  have hr : k.requested = (w.gate.requested || k.requested) := by grind
  rw [relay_note, hh, Relay.after_nil]
  ext1 <;> simp [relay, history, hd, hc, ← hr]

/-- One line takes a step of its own, and nothing else changes. -/
theorem step_of_line {q : Plumbing σ} {i : Nat} {l l' : Line} {h : List Happening} {asks : Bool}
    (hl : w.relay.line? i = some l) (o : l.Own i l' h asks)
    (hd : q.gate.destination = w.gate.destination)
    (hr : q.gate.requested = (w.gate.requested || asks))
    (hc : q.transport.connections = w.transport.connections.set i l'.connection)
    (hp : q.pumps = (w.relay.setLine i l').pumps)
    (ht : q.trace.reverse.filter Happening.concernsData =
      w.trace.reverse.filter Happening.concernsData ++ h) :
    w.relay.Step ({ w with toPlumbing := q } : World σ).relay := by
  have he : ({ w with toPlumbing := q } : World σ).relay =
      (w.relay.setLine i l').after h asks := by
    ext1
    · rfl
    · exact hd
    · rfl
    · exact hc
    · exact hp
    · exact ht
    · exact hr
    · rfl
  rw [he]
  exact .beside hl o

theorem relay_write {i : Nat} {chunk : Bytes} :
    (w.withTransport (w.transport.modifyConnection i fun c => { c with
      outbox := c.outbox ++ [chunk] }, [.written i chunk])).relay = w.relay.write i chunk := by
  ext1 <;> try rfl
  simp [relay, history, withTransport, Plumbing.withTransport, Plumbing.note,
    Happening.concernsData]

/-! ### To the fallback connection -/

theorem relay_openFallback (closed : Except IoError Unit) (hc : w.relay.CanOpen) :
    (w.openFallback closed).relay = (w.relay.opening w.relay.fallback).withSession
      { w.session with
        replay := w.session.replay.take.2
        phase := .replaying w.relay.connections.length w.session.replay.chunks } := by
  -- The log line for an error is all that the outcome decides.
  suffices hok : ∀ v : World σ, v.relay = w.relay →
      (v.openFallback (.ok ())).relay = (w.relay.opening w.relay.fallback).withSession
        { w.session with
          replay := w.session.replay.take.2
          phase := .replaying w.relay.connections.length w.session.replay.chunks } by
    cases closed with
    | ok _ => exact hok w rfl
    | error e => exact hok (w.log .warn s!"first connection failed: {e}") (relay_log _ _ _)
  intro v hv
  have hvs : v.session = w.session := congrArg Relay.session hv
  have hvf : v.gate.destination.withHost v.engine.fallbackHost = w.relay.fallback :=
    congrArg (fun r => r.destination.withHost r.engine.fallbackHost) hv
  have hop := relay_open? (v.note [.log .debug w.relay.fallback "connecting via fallback egress"])
    w.relay.fallback
  unfold openFallback
  simp only [hvf]
  rcases hso : (v.note [.log .debug w.relay.fallback "connecting via fallback egress"]).open?
    w.relay.fallback with _ | ⟨i, v'⟩
  · rw [hso] at hop
    simp [hv, hc] at hop
  · rw [hso] at hop
    obtain ⟨-, rfl, hr, hs, -⟩ := hop
    simp [hr, hs, hvs, hv, ReplayBuffer.take]

theorem relay_adopt {i : Nat} {c : Connection} (hc : w.relay.connections[i]? = some c)
    (hr : c.reader = .held) :
    (w.adopt i).relay = (((w.relay.modify (some i) (·.takeClosed.2)).pumping i true).modify
      w.session.active .drop).withSession { w.session with
        pump := some w.relay.pumps.length, active := some i, phase := .selecting } := by
  obtain ⟨v, hv⟩ : ∃ v : World σ, v =
      { w with transport := w.transport.modifyConnection i (·.takeClosed.2) } := ⟨_, rfl⟩
  have hvr : v.relay = w.relay.modify (some i) (·.takeClosed.2) := by
    rw [hv]
    rfl
  have hvc : v.transport.connections[i]? = some c.takeClosed.2 := by
    have hm := congrArg (fun r => r.connections[i]?) hvr
    simp only [Relay.getElem?_modify_connections, if_pos, hc, Option.map_some] at hm
    exact hm
  have hp := relay_startPump v i true fun c' hc' => by
    obtain rfl := Option.some.inj (hvc.symm.trans hc')
    exact hr
  have hvs : v.session = w.session := congrArg Relay.session hvr
  have hvp : v.pumps = w.relay.pumps := congrArg Relay.pumps hvr
  unfold adopt
  simp [← hv, hp, hvr, hvs, hvp, setPhase]

/-! ### The end of the session -/

@[simp] theorem gate_setActive (w : World σ) (active : Option Nat) :
    (w.setActive active).gate = w.gate := by
  unfold setActive
  cases w.session.active <;> rfl

theorem relay_finish (w : World σ) (hp : w.session.phase = .selecting) :
    w.finish.relay = (w.relay.modify w.session.active .drop).withSession
      (w.session.concluded w.relay.destination w.relay.requested) := by
  rw [finish, relay_conclude _ (by simpa using hp)]
  simp
  rfl

theorem step_of_finish (h : w.finish? = some w') : w.relay.Step w'.relay := by
  unfold finish? at h
  split at h
  · rename_i hg
    obtain ⟨hp, ho, hk⟩ := hg
    cases h
    rw [relay_conclude w hp]
    exact .conclude hp (Bool.not_eq_true _ ▸ ho) hk
  · cases h

theorem step_of_abandon (h : w.abandon? = some w') : w.relay.Step w'.relay := by
  unfold abandon? at h
  split at h
  · cases h
  · cases h
  · cases h
  · rename_i h1 h2 h3
    split at h
    · cases h
      rw [relay_release]
      refine .abandon ‹_› ?_
      cases hp : w.session.phase <;> simp_all [relay, Session.isOver]
    · cases h

/-! ### Drivers and pumps -/

theorem step_of_driver {i : Nat} {part : Driver.Part} {t : Transport} {h : List Happening}
    (hs : w.transport.step? i part = some (t, h)) : w.relay.Step (w.withTransport (t, h)).relay := by
  obtain ⟨c, c', hc, ht, hd⟩ := Transport.step?_driven hs
  have hl : w.relay.line? i = some ⟨c, w.pumps[i]?⟩ := Relay.line?_eq_some_iff.mpr ⟨hc, rfl⟩
  refine step_of_line hl (.drive hd) rfl ?_ ht ?_ ?_
  · simp [Plumbing.withTransport, Plumbing.note]
  · exact (Relay.setLine_pumps_of_eq (r := w.relay) rfl).symm
  · simp [Plumbing.withTransport, Plumbing.note]

section

variable [ClientChannel σ]

theorem relay_close (w : World σ) (reason : String) :
    (w.close reason).relay = w.relay.after [] true := by
  obtain ⟨hq, hr⟩ := w.gate.quiet_close reason
  rw [← hr]
  exact relay_of_quiet hq rfl

@[simp] theorem session_cancel (w : World σ) (reason : String) :
    (w.cancel reason).session = w.session := rfl

@[simp] theorem relay_cancel (w : World σ) (reason : String) :
    (w.cancel reason).relay = w.relay.cancelling := by
  obtain ⟨hq, hc, hr⟩ := w.chunks.quiet_cancel w.gate reason
  have hw : (w.cancel reason).relay =
      { ({ w with gate := (w.chunks.cancel w.gate reason).2.2.1 }.note
          (w.chunks.cancel w.gate reason).2.2.2 : World σ).relay with
        cancelled := (w.chunks.cancel w.gate reason).2.1.cancelled } := rfl
  rw [hw, relay_of_quiet hq rfl, hc, hr]
  ext1 <;> simp [relay]

theorem step_of_pumpItem {k : Nat} {p : Pump} {q : Plumbing σ} {c : Connection}
    (hc : w.transport.connections[k]? = some c) (hp : w.pumps[k]? = some p)
    (hk : p.connection = k) (hr : p.phase = .running)
    (h : w.toPlumbing.pumpItem? k p = some q) :
    w.relay.Step ({ w with toPlumbing := q } : World σ).relay := by
  subst hk
  have hl : w.relay.line? _ = some ⟨c, some p⟩ := Relay.line?_eq_some_iff.mpr ⟨hc, hp⟩
  have hset : ∀ c', (w.transport.connections.set p.connection c').modify p.connection .dropReader =
      w.transport.connections.set p.connection c'.dropReader := by
    intro c'
    apply List.ext_getElem?
    grind
  unfold Plumbing.pumpItem? at h
  rcases hi : c.inbox with _ | ⟨err | chunk, inbox⟩
  · cases hd : c.readable with
    | true =>
      have hp := Transport.receive_pending hc hi hd
      rcases hr : w.transport.receive p.connection with ⟨receipt, t, happened⟩
      rw [hr] at hp h
      cases hp
      cases h
    | false =>
      rw [Transport.receive_ended hc hi hd] at h
      cases h
      refine step_of_line hl (.finish rfl hr hi hd) rfl ?_ ?_ rfl ?_
      · simp [Plumbing.endPump, Plumbing.setPump, Plumbing.dropReader, Plumbing.withTransport, Plumbing.log, Plumbing.note]
      · exact hset _
      · simp [Plumbing.endPump, Plumbing.setPump, Plumbing.dropReader, Plumbing.withTransport, Plumbing.log, Plumbing.note]
  · rw [Transport.receive_error hc hi] at h
    obtain ⟨gate, now, hdel, hq, hr'⟩ := deliver_error w.gate err
    simp only [Plumbing.withTransport, Plumbing.note] at h
    rw [hdel] at h
    cases h
    refine step_of_line hl (.failRead rfl hr hi) ?_ ?_ ?_ rfl ?_
    · exact hq.destination
    · exact hr'.trans (Bool.or_true _).symm
    · exact hset _
    · simp [Plumbing.endPump, Plumbing.setPump, Plumbing.dropReader, hq.happened]
  · rw [Transport.receive_chunk hc hi] at h
    have hn : (Happening.handedOut p.connection chunk).concernsData = true := rfl
    have hdel := deliver_chunk w.gate chunk
    rcases hg : deliver w.gate (.ok chunk) with ⟨_ | e | reason, gate, now⟩
    all_goals
      simp only [Plumbing.withTransport, Plumbing.note] at h
      rw [hg] at h hdel
      cases h
      obtain ⟨hd, hr', ht⟩ := hdel
    · refine step_of_line hl (.send rfl hr hi) hd ?_ rfl rfl ?_
      · exact hr'.trans (Bool.or_false _).symm
      · simp [Plumbing.setPump, hn, ht]
    · have hc : ∃ called, now.filter Happening.concernsData = called ∧
          (called = [] ∨ called = [.sendCalled .opened chunk]) := ⟨_, rfl, ht⟩
      obtain ⟨called, ht, hc⟩ := hc
      refine step_of_line hl (.fail rfl hr hi hc (not_remote_of_deliver hg)) hd ?_ ?_ rfl ?_
      · exact hr'.trans (Bool.or_true _).symm
      · exact hset _
      · simp [Plumbing.endPump, Plumbing.setPump, Plumbing.dropReader, hn, ht]
    · refine step_of_line hl (.crash rfl hr hi) hd ?_ ?_ rfl ?_
      · exact hr'.trans (Bool.or_false _).symm
      · exact hset _
      · simp [Plumbing.crashPump, Plumbing.setPump, Plumbing.dropReader, hn, ht]

theorem step_of_pump {k : Nat} {q : Plumbing σ} (hs : w.relay.Shape)
    (h : w.toPlumbing.pump? k = some q) :
    w.relay.Step ({ w with toPlumbing := q } : World σ).relay := by
  obtain ⟨p, hp, h⟩ := Option.bind_eq_some_iff.mp h
  obtain ⟨hk, -⟩ := hs.pumps k p hp
  obtain ⟨c, hc⟩ : ∃ c, w.transport.connections[k]? = some c := hs.connection_of_pump hp
  cases hph : p.phase with
  | running =>
    simp only [hph] at h
    exact step_of_pumpItem hc hp hk hph h
  | settling outcome =>
    simp only [hph] at h
    obtain ⟨closed, hcl, rfl⟩ := Option.map_eq_some_iff.mp h
    have hl : w.relay.line? k = some ⟨c, some p⟩ := Relay.line?_eq_some_iff.mpr ⟨hc, hp⟩
    have hcs : c.closed.isSome := by
      rw [Transport.closed?, hk, hc] at hcl
      exact Option.isSome_of_eq_some hcl
    have hset : w.transport.connections = w.transport.connections.set k c := by
      apply List.ext_getElem?
      grind
    cases closed with
    | ok _ =>
      obtain ⟨hq, hr⟩ := w.gate.quiet_close "retry connection closed"
      refine step_of_line hl (.settle rfl hph hcs) hq.destination ?_ hset rfl ?_
      · exact hr.trans (Bool.or_true _).symm
      · simp [Plumbing.setPump, Plumbing.close, Plumbing.note, hq.happened]
    | error e =>
      obtain ⟨hq, hr⟩ := w.gate.quiet_close "retry connection closed"
      refine step_of_line hl (.settle rfl hph hcs) hq.destination ?_ hset rfl ?_
      · exact hr.trans (Bool.or_true _).symm
      · simp [Plumbing.setPump, Plumbing.close, Plumbing.log, Plumbing.note, hq.happened]
  | ended | crashed => simp [hph] at h

/-! ### The client's chunks -/

theorem relay_beginWrite {i : Nat} {chunk : Bytes} (ha : w.session.active = some i) :
    (w.beginWrite chunk).relay =
      w.relay.withSession (w.session.prepare (w.relay.delivered i) chunk) := by
  have hb : w.beginWrite chunk =
      if w.session.retried || w.relay.delivered i then w.setPhase (.writing chunk false)
      else w.withSession fun s => { s with
        replay := (w.session.replay.record chunk).2
        phase := .writing chunk (w.session.replay.record chunk).1 } := by
    unfold beginWrite
    rw [ha]
    rfl
  rw [hb]
  unfold Session.prepare
  split <;> rfl

/-- What follows the opening of the first connection. -/
theorem relay_firstWrite {r : Relay} (chunk : Bytes) (hw : w.relay = r.opening r.destination) :
    (((((w.withSession ({ · with connected := true })).enter .connected).startPump
      r.connections.length false).withSession
        ({ · with active := some r.connections.length })).beginWrite chunk).relay =
      ((r.opening r.destination).pumping r.connections.length false).withSession
        ({ r.session with
          connected := true, stage := .connected, active := some r.connections.length,
          pump := some r.pumps.length }.prepare false chunk) := by
  obtain ⟨v, hv⟩ : ∃ v, v = (w.withSession ({ · with connected := true })).enter .connected :=
    ⟨_, rfl⟩
  have hws : w.session = r.session := congrArg Relay.session hw
  have hvr : v.relay = (r.opening r.destination).withSession
      { r.session with connected := true, stage := .connected } := by
    simp [hv, hw, hws]
  have hvs : v.session = { r.session with connected := true, stage := .connected } :=
    congrArg Relay.session hvr
  have hvp : v.pumps.length = r.pumps.length := congrArg (fun r => r.pumps.length) hvr
  have hvc : v.transport.connections[r.connections.length]? =
      some (Connection.fresh r.destination r.engine.capacity) := by
    have hc := congrArg (fun r' => r'.connections[r.connections.length]?) hvr
    exact hc.trans Relay.getElem?_opening_self
  have hp := relay_startPump v r.connections.length false fun c hc => by
    obtain rfl := Option.some.inj (hvc.symm.trans hc)
    rfl
  rw [← hv, relay_beginWrite (i := r.connections.length) rfl]
  simp only [relay_withSession, session_withSession, session_startPump, hp, hvr, hvs, hvp]
  have hd : ((r.opening r.destination).pumping r.connections.length false).delivered
      r.connections.length = false := by
    simp only [Relay.delivered, Relay.getElem?_pumping_connections, Relay.getElem?_opening_self]
    rfl
  have hs : ∀ (r : Relay) (s : Session) i, (r.withSession s).delivered i = r.delivered i :=
    fun _ _ _ => rfl
  simp [hd, hs]

theorem step_of_forward {r : Relay} {chunk : Bytes} (hw : w.relay = r.after [.taken chunk] false)
    (hs : r.Shape) (hp : w.session.phase = .selecting) (ho : w.session.clientOpen = true) :
    r.Step (w.forward chunk).relay := by
  have hrs : w.session = r.session := congrArg Relay.session hw
  have hrd : w.gate.destination = r.destination := congrArg Relay.destination hw
  have hst := hs.stands
  rw [hrs] at hp ho
  unfold forward
  by_cases ha : w.session.stage = .awaitingFirstChunk
  · rw [if_pos ha]
    rw [hrs] at ha
    have hop := relay_open? (w.note [.log .debug w.gate.destination "connecting"])
      w.gate.destination
    have h2 : (w.note [.log .debug w.gate.destination "connecting"]).relay =
        r.after [.taken chunk] false := by simp [hw]
    rw [h2] at hop
    rcases hso : (w.note [.log .debug w.gate.destination "connecting"]).open?
      w.gate.destination with _ | ⟨i, w'⟩
    · simp only [gate_note, hso] at hop ⊢
      have ht : r.session.target? = none := by simp [Session.target?, hp]
      rw [relay_release, h2, session_note, hrs, ht]
      exact .crash hp ho ha hop
    · simp only [gate_note, hso] at hop ⊢
      obtain ⟨hc, rfl, hr, -, -⟩ := hop
      rw [hrd] at hr
      have he := relay_firstWrite chunk hr
      rw [Relay.after_connections] at he
      refine he ▸ .takeFirst hp ho ha hc
  · rw [if_neg ha]
    rw [hrs] at ha
    obtain ⟨i, hi⟩ := hst.active_of_clientOpen hp ha ho
    rw [relay_beginWrite (hrs ▸ hi), hw, hrs]
    exact .takeNext hp ho ha hi

theorem step_of_take (hs : w.relay.Shape) (h : w.take? = some w') : w.relay.Step w'.relay := by
  unfold take? at h
  split at h
  · rename_i hg
    obtain ⟨hp, ho, -⟩ := hg
    obtain ⟨hq, hc⟩ := w.chunks.quiet_poll w.gate
    rcases hpoll : w.chunks.poll w.gate with ⟨item, chunks, gate, happened⟩
    rw [hpoll] at h hq hc
    have hr := relay_of_quiet hq hc
    cases item with
    | chunk data =>
      obtain ⟨rfl, rfl⟩ := ChunkStream.poll_chunk hpoll
      cases h
      refine step_of_forward ?_ hs hp ho
      rw [relay_note, hr]
      ext1 <;> simp [relay, Happening.concernsData]
    | ended | failed e =>
      cases h
      simp only [relay_withSession, relay_log, hr]
      exact .hearEnd hp ho
    | pending =>
      cases h
      -- Only a cancelled stream asks for the close of the client and gives nothing.
      have hreq : gate.requested = true → w.relay.requested = true := by
        rcases ChunkStream.poll_pending hpoll with hc | rfl
        · exact fun _ => hs.cancelled hc
        · exact id
      rw [hr, Relay.after_nil_of hreq]
      exact .idle
  · cases h

/-! ### Writes -/

theorem relay_failForwarding (w : World σ) (e : SessionError) :
    (w.failForwarding e).relay =
      w.relay.cancelling.withSession { w.session with clientOpen := false, phase := .selecting } := by
  simp [failForwarding]

theorem step_of_resumeWrite {chunk : Bytes} {kept : Bool} (hs : w.relay.Shape)
    (hp : w.session.phase = .writing chunk kept) (h : w.resumeWrite? chunk kept = some w') :
    w.relay.Step w'.relay := by
  obtain ⟨i, ha⟩ : ∃ i, w.session.active = some i := hs.stands.active_of_writing hp
  obtain ⟨c, hc, -⟩ := hs.connection_of_current (.inl ha)
  unfold resumeWrite? at h
  rw [ha] at h
  obtain ⟨⟨answer, result⟩, hoff, h⟩ := Option.map_eq_some_iff.mp h
  have ho := Transport.offer?_cases chunk hc
  rw [hoff] at ho
  cases answer with
  | ok =>
    obtain ⟨hw, hr, rfl⟩ := ho
    cases h
    rw [relay_withSession, relay_write]
    exact .written hp ha hc hw hr
  | error e =>
    have hn : (Happening.refused i chunk).concernsData = true := rfl
    cases kept with
    | true =>
      cases h
      have hr := Relay.Step.writeKept hp ha hc ho
      simpa [setPhase, hn] using hr
    | false =>
      cases h
      have hr := Relay.Step.writeLost hp ha hc ho
      simpa [relay_failForwarding, ha, hn] using hr

omit [ClientChannel σ] in
theorem step_of_leaveFirst (hs : w.relay.Shape) (hp : w.session.phase = .leavingFirst)
    (h : w.leaveFirst? = some w') : w.relay.Step w'.relay := by
  have hco : w.relay.CanOpen := by
    apply hs.canOpen
    rw [ne_eq, ← List.length_eq_zero_iff, (hs.stands.of_leavingFirst hp).1]
    exact Nat.one_ne_zero
  unfold leaveFirst? at h
  cases ha : w.session.active with
  | none =>
    rw [ha] at h
    cases h
    have hr := Relay.Step.openFallback (r := w.relay) hp (by simp [ha]) hco
    rw [relay_openFallback _ hco]
    simpa [ha] using hr
  | some i =>
    rw [ha] at h
    obtain ⟨closed, hcl, rfl⟩ := Option.map_eq_some_iff.mp h
    obtain ⟨c, hc, -⟩ := hs.connection_of_current (.inl ha)
    have hcl : c.closed = some closed := by
      have hc : w.transport.connections[i]? = some c := hc
      rwa [Transport.closed?, hc] at hcl
    have hr := Relay.Step.openFallback (r := w.relay) hp (fun j hj => by
      obtain rfl : i = j := Option.some.inj (ha.symm.trans hj)
      exact ⟨c, hc, Option.isSome_of_eq_some hcl⟩) hco
    have hv : ({ w with transport := w.transport.modifyConnection i (·.takeClosed.2) } :
        World σ).relay = w.relay.modify w.session.active (·.takeClosed.2) := by
      rw [ha]
      rfl
    have hvf : (w.relay.modify w.session.active (·.takeClosed.2)).fallback = w.relay.fallback := rfl
    rw [relay_openFallback _ (by rw [hv]; exact hco), hv, hvf]
    simpa using hr

omit [ClientChannel σ] in
theorem step_of_replay {i : Nat} {rest : List Bytes} (hs : w.relay.Shape) (hf : w.relay.Fits)
    (hp : w.session.phase = .replaying i rest) (h : w.replay? i rest = some w') :
    w.relay.Step w'.relay := by
  have hcur : w.session.current? = some i := by
    simp [Session.current?, Session.target?, hp]
  obtain ⟨c, hc, hd⟩ := hs.connection_of_current (.inr hcur)
  cases rest with
  | nil =>
    cases h
    obtain ⟨hi, -, hm, -, -⟩ := hs.stands.of_replaying hp
    have hl : w.relay.line? i = some ⟨c, none⟩ := by
      have hk : w.relay.pumps.length ≤ i := by omega
      simp [Relay.line?, hc, hk]
    have hr : c.reader = .held := ((hf.readSide i _ hl).idle rfl).2 hd
    rw [relay_adopt hc hr]
    exact .adopt hp hc hr
  | cons chunk rest =>
    obtain ⟨⟨answer, result⟩, hoff, h⟩ := Option.map_eq_some_iff.mp h
    have ho := Transport.offer?_cases chunk hc
    rw [hoff] at ho
    cases answer with
    | ok =>
      obtain ⟨hw, hr, rfl⟩ := ho
      cases h
      rw [relay_withSession, relay_log, relay_write]
      exact .replayed hp hc hw hr
    | error e =>
      cases h
      have hn : (Happening.refused i chunk).concernsData = true := rfl
      have hr := Relay.Step.replayStopped hp hc ho
      simpa [setPhase, hn] using hr

/-! ### The end of a pump -/

theorem step_of_join (h : w.join? = some w') : w.relay.Step w'.relay := by
  unfold join? at h
  split at h
  · rename_i hp
    obtain ⟨k, hk, h⟩ := Option.bind_eq_some_iff.mp h
    obtain ⟨outcome, ho, rfl⟩ := Option.map_eq_some_iff.mp h
    obtain ⟨p, hj, ho⟩ := Option.bind_eq_some_iff.mp ho
    have hj : w.relay.pumps[k]? = some p := hj
    obtain ⟨v, hv⟩ : ∃ v, v = w.withSession
      ({ · with pump := none, hasIncomingData := outcome.delivered }) := ⟨_, rfl⟩
    have hvr : v.relay = w.relay.withSession { w.session with
        pump := none, hasIncomingData := outcome.delivered } := by rw [hv, relay_withSession]
    have hvs : v.session = { w.session with pump := none, hasIncomingData := outcome.delivered } :=
      congrArg Relay.session hvr
    unfold pumpEnded
    rw [← hv]
    cases outcome with
    | failed delivered e =>
      have hr := @Relay.Step.finish w.relay _ _ _ false hp hk hj ho (by simp)
      have hfin := relay_finish (v.log .info s!"remote to client pump failed: {e}") (by simpa [hvs] using hp)
      dsimp only
      rw [hfin]
      simpa [hvr, hvs] using hr
    | finished delivered =>
      have hph : p.phase = .ended (.finished delivered) := by
        cases hph : p.phase <;> simp_all [Pump.outcome?]
      have hr := @Relay.Step.finish w.relay _ _ _ true hp hk hj ho (by simp)
      have hclose : ∀ u : World σ, u.relay = v.relay →
          w.relay.Step (u.close "remote readable closed").finish.relay := by
        intro u hu
        have hus : (u.close "remote readable closed").session = v.session :=
          congrArg Relay.session hu
        rw [relay_finish _ (by simpa [hus, hvs] using hp), relay_close, hu, hvr, hus, hvs]
        simpa using hr
      dsimp only
      split
      · exact hclose v rfl
      · split
        · rename_i hg hop
          simp [hvs] at hg
          have hr := Relay.Step.retry (r := w.relay) hp hk hj (by simpa [hg] using hph) hg.2
          simpa [hvr, hvs, hg, PumpOutcome.delivered] using hr
        · exact hclose _ (relay_log _ _ _)
  · cases h

/-! ### Tasks and moves -/

theorem step_of_session {branch : Branch} (hs : w.relay.Shape) (hf : w.relay.Fits)
    (h : w.sessionStep? branch = some w') : w.relay.Step w'.relay := by
  unfold sessionStep? at h
  split at h
  · cases branch with
    | abandon => exact step_of_abandon h
    | take | join | resume | finish => cases h
  · cases branch with
    | take => exact step_of_take hs h
    | join => exact step_of_join h
    | finish => exact step_of_finish h
    | abandon => cases h
    | resume =>
      change w.resume? = some w' at h
      unfold resume? at h
      split at h
      · exact step_of_resumeWrite hs ‹_› h
      · exact step_of_leaveFirst hs ‹_› h
      · exact step_of_replay hs hf ‹_› h
      all_goals cases h

theorem step_of_task {t : Task} (hs : w.relay.Shape) (hf : w.relay.Fits)
    (h : w.step? t = some w') : w.relay.Step w'.relay := by
  cases t with
  | session branch => exact step_of_session hs hf h
  | beside task =>
    obtain ⟨q, hq, rfl⟩ := Option.map_eq_some_iff.mp h
    cases task with
    | driver i part =>
      obtain ⟨⟨t, happened⟩, ht, rfl⟩ := Option.map_eq_some_iff.mp hq
      exact step_of_driver ht
    | pump k => exact step_of_pump hs hq

omit [ClientChannel σ] in
/-- The outside world moves no data, and tells the session no more than to stop. -/
theorem step_of_outside (w : World σ) (o : Outside σ) : w.relay.Step (w.outside o).relay := by
  cases o with
  | client _ | event _ | noMoreEvents | peer _ _ => exact .idle
  | abort => exact .abort

/-- Every move is a step of the relay. -/
theorem step_of_move {m : Move σ} (hs : w.relay.Shape) (hf : w.relay.Fits)
    (h : w.move? m = some w') : w.relay.Step w'.relay := by
  cases m with
  | task t => exact step_of_task hs hf h
  | outside o =>
    cases h
    exact step_of_outside w o

end

end World

end Tunnel
