import Mathlib.Logic.Relation
import Tunnel.Proofs.Client
import Tunnel.Proofs.Line.Basic

/-!
# Deeds

Whatever a world does in a move is a sequence of a few kinds of small deeds: something is noted,
an error is complained of, the client changes or its close is requested, a connection or a pump
changes, events come and go, and the session goes on. What all deeds keep, every move keeps.

## Main definitions

* `Happening.plain` — what is neither an error nor about the client's close.
* `Complaint` — an error that a session logs.
* `Transport.Deed`, `Plumbing.Deed`, `World.Deed` — the small deeds.

## Main statements

* `World.deeds_of_move` — every move is a sequence of deeds.
-/

namespace Tunnel

/-! ### Notes -/

/-- Whether something is neither an error nor about the client's close. -/
def Happening.plain : Happening → Bool
  | .logged line => line.level ≠ .error
  | .closeSought _ | .closeCalled => false
  | _ => true

@[simp] theorem Happening.plain_log (level : Log.Level) (d : Destination) (text : String) :
    (log level d text).plain = decide (level ≠ .error) := rfl

/-- Nothing is an error or about the client's close. -/
def Plain (h : List Happening) : Prop := ∀ e ∈ h, e.plain = true

namespace Plain

variable {e : Happening} {h h' : List Happening}

@[simp] theorem nil : Plain [] := by simp [Plain]

@[simp] theorem cons_iff : Plain (e :: h) ↔ e.plain = true ∧ Plain h := by simp [Plain]

@[simp] theorem append_iff : Plain (h ++ h') ↔ Plain h ∧ Plain h' := by
  simp [Plain, or_imp, forall_and]

end Plain

/-- An error that a session logs. -/
inductive Complaint
  /-- A chunk of the client could not be written. -/
  | forwarding (e : IoError)
  /-- The pump could not go on. -/
  | delivering (e : SessionError)
  /-- The client's close failed. -/
  | closing (e : ChannelError)
  /-- The fallback connection ended with an error. -/
  | fallback (e : IoError)
  deriving DecidableEq, Repr

def Complaint.text : Complaint → String
  | .forwarding e => s!"client to remote pump has exception: {SessionError.remote e}"
  | .delivering e => s!"remote to client pump has exception: {e}"
  | .closing e => s!"safe close of client channel failed: {e}"
  | .fallback e => s!"retry connection closed with error: {e}"

/-! ### What is noted of connections -/

namespace Connection

variable {i : Nat} {c c' : Connection} {e : Endpoint} {p : Progress} {h : List Happening}

@[simp] theorem plain_continueWith (id : Nat) (c : Connection) (e : Endpoint) (dial : Nat)
    (reading : Reading) (writing : Writing) (h : List Happening) :
    Plain (c.continueWith id e dial reading writing h).happened ↔ Plain h := by
  cases reading <;> cases writing <;> simp [continueWith, Happening.plain, Happening.log]

theorem plain_of_dial? {dial : Nat} (hd : c.dial? i dial = some (c', h)) : Plain h := by
  unfold dial? at hd
  split at hd <;> cases hd
  simp [Happening.plain]

theorem plain_of_connect? {answer : DialAnswer} (hc : c.connect? answer = some (c', h)) :
    Plain h := by
  unfold connect? at hc
  split at hc
  · cases answer <;> cases hc <;> simp
  · cases hc

theorem plain_of_read? (hr : c.read? i e = some p) : Plain p.happened := by
  unfold read? at hr
  split at hr
  · split at hr <;> cases hr <;> simp [Happening.plain]
  · rename_i item _ _
    split at hr
    · cases hr
      simp
    split at hr
    · cases item <;> cases hr <;> simp
    · cases hr
  · cases hr

theorem plain_of_write? (hw : c.write? i e = some p) : Plain p.happened := by
  unfold write? at hw
  split at hw
  · split at hw
    · split at hw <;> cases hw
      simp
    all_goals
      cases hw
      simp
  · split at hw <;> cases hw <;> simp [failWriting, Happening.plain, Happening.log]
  · cases hw

theorem plain_of_discard? (hd : c.discard? i = some (c', h)) : Plain h := by
  unfold discard? at hd
  split at hd
  · split at hd <;> cases hd <;> simp [Happening.plain, Happening.log]
  · cases hd

end Connection

namespace Transport

/-- One thing that can become of a transport, with what is noted of it. -/
inductive Deed (t : Transport) : Transport × List Happening → Prop
  | driver {i : Nat} {part : Driver.Part} {r : Transport × List Happening} :
    t.step? i part = some r → Deed t r
  | receive (i : Nat) : Deed t (t.receive i).2
  | offer {i : Nat} {chunk : Bytes} {answer : Except IoError Unit}
    {r : Transport × List Happening} : t.offer? i chunk = some (answer, r) → Deed t r
  | opening {d : Destination} {capacity i : Nat} {r : Transport × List Happening} :
    t.open? d capacity = some (i, r) → Deed t r
  /-- An owner or a reader leaves the driver as it is. -/
  | modify (i : Nat) (f : Connection → Connection) : (∀ c, (f c).driver = c.driver) →
    Deed t (t.modifyConnection i f, [])
  | peer (n : Nat) (p : Peer) : Deed t (t.setPeer n p, [])

variable {t t' : Transport} {i : Nat} {part : Driver.Part} {h : List Happening}

/-- Drivers warn, but log no errors, and have nothing to do with the client. -/
theorem plain_of_step? (hs : t.step? i part = some (t', h)) : Plain h := by
  unfold step? at hs
  obtain ⟨c, -, hs⟩ := Option.bind_eq_some_iff.mp hs
  cases part with
  | dial =>
    obtain ⟨⟨c', h⟩, hd, hs⟩ := Option.map_eq_some_iff.mp hs
    cases hs
    exact Connection.plain_of_dial? hd
  | connect =>
    dsimp only at hs
    split at hs
    · obtain ⟨⟨c', h⟩, hd, hs⟩ := Option.map_eq_some_iff.mp hs
      cases hs
      exact Connection.plain_of_connect? hd
    · cases hs
  | read =>
    obtain ⟨dial, -, hs⟩ := Option.bind_eq_some_iff.mp hs
    obtain ⟨p, hd, hs⟩ := Option.map_eq_some_iff.mp hs
    cases hs
    exact Connection.plain_of_read? hd
  | write =>
    obtain ⟨dial, -, hs⟩ := Option.bind_eq_some_iff.mp hs
    obtain ⟨p, hd, hs⟩ := Option.map_eq_some_iff.mp hs
    cases hs
    exact Connection.plain_of_write? hd
  | discard =>
    obtain ⟨⟨c', h⟩, hd, hs⟩ := Option.map_eq_some_iff.mp hs
    cases hs
    exact Connection.plain_of_discard? hd

theorem plain_receive (t : Transport) (i : Nat) : Plain (t.receive i).2.2 := by
  unfold receive
  split
  · simp
  · split <;> simp [Happening.plain]

theorem plain_of_offer? {chunk : Bytes} {answer : Except IoError Unit}
    (ho : t.offer? i chunk = some (answer, t', h)) : Plain h := by
  unfold offer? at ho
  split at ho
  · cases ho
    simp
  · split at ho <;> cases ho <;> simp [Happening.plain]

theorem plain_of_open? {d : Destination} {capacity : Nat}
    (ho : t.open? d capacity = some (i, t', h)) : Plain h := by
  unfold open? at ho
  dsimp only at ho
  split at ho <;> cases ho
  simp [Happening.plain]

theorem Deed.plain {r : Transport × List Happening} (s : t.Deed r) : Plain r.2 := by
  cases s with
  | driver hs => exact plain_of_step? hs
  | receive i => exact t.plain_receive i
  | offer ho => exact plain_of_offer? ho
  | opening ho => exact plain_of_open? ho
  | modify | peer => exact .nil

end Transport

/-! ### The deeds of drivers and pumps -/

variable {σ : Type} [ClientChannel σ]

namespace Plumbing

/-- One thing that can become of a client, a transport and pumps. -/
inductive Deed (q : Plumbing σ) : Plumbing σ → Prop
  | note {h : List Happening} : Plain h → Deed q (q.note h)
  | complain (c : Complaint) : Deed q (q.log .error c.text)
  | client (next : σ) : Deed q { q with gate := { q.gate with client := next } }
  | close (reason : String) : Deed q (q.close reason)
  | transport {r : Transport × List Happening} : q.transport.Deed r → Deed q (q.withTransport r)
  | pumps (pumps : List Pump) : Deed q { q with pumps }

/-- What becomes of them while tasks work. -/
abbrev Deeds : Plumbing σ → Plumbing σ → Prop := Relation.ReflTransGen Deed

omit [ClientChannel σ] in
theorem note_note (q : Plumbing σ) (h h' : List Happening) :
    (q.note h).note h' = q.note (h ++ h') := by
  simp [note]

namespace Deeds

variable {q q' q'' : Plumbing σ} {k : Nat} {p : Pump} {h : List Happening}

theorem tail (s : q.Deeds q') (t : q'.Deed q'') : q.Deeds q'' := Relation.ReflTransGen.tail s t

theorem note (s : q.Deeds q') (hh : Plain h) : q.Deeds (q'.note h) := s.tail (.note hh)

theorem log {level : Log.Level} {text : String} (s : q.Deeds q')
    (hl : level ≠ .error := by decide) : q.Deeds (q'.log level text) :=
  s.note (by simp [hl])

theorem withTransport {r : Transport × List Happening} (s : q.Deeds q')
    (hr : q'.transport.Deed r) : q.Deeds (q'.withTransport r) :=
  s.tail (.transport hr)

theorem setPump (s : q.Deeds q') : q.Deeds (q'.setPump k p) := s.tail (.pumps _)

/-- A pump goes away with its reader. -/
theorem leave {i : Nat} (s : q.Deeds q') : q.Deeds ((q'.dropReader i).setPump k p) :=
  .setPump (s.withTransport (.modify i Connection.dropReader fun _ => rfl))

theorem close (reason : String) (s : q.Deeds q') : q.Deeds (q'.close reason) :=
  s.tail (.close reason)

end Deeds

variable {q q' : Plumbing σ}

theorem deeds_sendChunk (q : Plumbing σ) (chunk : Bytes) :
    q.Deeds ({ q with gate := (sendChunk q.gate chunk).2.1 }.note
      (sendChunk q.gate chunk).2.2) := by
  unfold sendChunk
  dsimp only
  split
  · split
    all_goals exact .note (.single (.client _)) (by simp [Happening.plain])
  · exact Deeds.note .refl .nil

/-- A pump that cannot go on complains, and requests the close of the client. -/
theorem deeds_deliver (q : Plumbing σ) (item : Except IoError Bytes) :
    q.Deeds ({ q with gate := (deliver q.gate item).2.1 }.note (deliver q.gate item).2.2) := by
  have hfail : ∀ (k : Coordinator σ) (now : List Happening) (e : SessionError),
      q.Deeds (note { q with gate := k } now) →
      q.Deeds ({ q with gate := (k.close "remote to client pump failed").2.1 }.note
        (now ++ Happening.log .error k.destination s!"remote to client pump has exception: {e}" ::
          (k.close "remote to client pump failed").2.2)) := by
    intro k now e hq
    have hc := (hq.tail (.complain (.delivering e))).close "remote to client pump failed"
    rw [List.append_cons, ← note_note, ← note_note]
    exact hc
  unfold deliver
  cases item with
  | error e => exact hfail _ _ _ (Deeds.note .refl .nil)
  | ok chunk =>
    have hs := q.deeds_sendChunk chunk
    dsimp only
    rcases he : sendChunk q.gate chunk with ⟨_ | e | reason, k, now⟩ <;> rw [he] at hs
    · exact hs
    · exact hfail k now e hs
    · exact hs

theorem deeds_of_pumpItem? {k : Nat} {p : Pump} (h : q.pumpItem? k p = some q') : q.Deeds q' := by
  have hr : q.Deeds (q.withTransport (q.transport.receive p.connection).2) :=
    .single (.transport (.receive p.connection))
  unfold pumpItem? at h
  split at h
  · cases h
  · rename_i he
    rw [he] at hr
    cases h
    exact .leave hr.log
  · rename_i item transport happened he
    rw [he] at hr
    have hd : q.Deeds _ := hr.trans (deeds_deliver (q.withTransport (transport, happened)) item)
    dsimp only at h
    split at h <;> cases h
    · exact hd.setPump
    · exact hd.leave
    · exact hd.leave

theorem deeds_of_settlePump? {k : Nat} {p : Pump} {outcome : PumpOutcome}
    (h : q.settlePump? k p outcome = some q') : q.Deeds q' := by
  obtain ⟨closed, -, rfl⟩ := Option.map_eq_some_iff.mp h
  cases closed with
  | ok _ => exact .setPump (.close _ .refl)
  | error e => exact .setPump (.close _ (.single (.complain (.fallback e))))

theorem deeds_of_step? {task : Task} (h : q.step? task = some q') : q.Deeds q' := by
  cases task with
  | driver i part =>
    obtain ⟨r, hr, rfl⟩ := Option.map_eq_some_iff.mp h
    exact .single (.transport (.driver hr))
  | pump k =>
    obtain ⟨p, -, h⟩ := Option.bind_eq_some_iff.mp h
    split at h
    · exact deeds_of_pumpItem? h
    · exact deeds_of_settlePump? h
    all_goals cases h

/-! ### The deeds of a client's events -/

theorem deeds_produce (q : Plumbing σ) (cancelled : Bool) (e : ChannelEvent) :
    q.Deeds ({ q with gate := (ChunkStream.produce cancelled q.gate e).2.1 }.note
      (ChunkStream.produce cancelled q.gate e).2.2) := by
  cases e with
  | message data => exact Deeds.note .refl .nil
  | close => exact Deeds.close _ .refl
  | error e =>
    have hw : q.Deeds (q.log .warn s!"client channel has error: {e}") := Deeds.log .refl
    have hc := hw.close "client channel error"
    simp only [ChunkStream.produce]
    rw [← List.singleton_append, ← note_note]
    exact hc

theorem deeds_consume (q : Plumbing σ) (cancelled : Bool) (events : List ChannelEvent) :
    q.Deeds ({ q with gate := (ChunkStream.consume cancelled q.gate events).2.2.1 }.note
      (ChunkStream.consume cancelled q.gate events).2.2.2) := by
  induction events generalizing q with
  | nil => exact Deeds.note .refl .nil
  | cons e rest ih =>
    have hp := q.deeds_produce cancelled e
    unfold ChunkStream.consume
    rcases he : ChunkStream.produce cancelled q.gate e with ⟨_ | item, k, now⟩ <;> rw [he] at hp
    · have hr := hp.trans (ih _)
      dsimp only
      rw [← note_note]
      exact hr
    · exact hp

theorem deeds_cancel (q : Plumbing σ) (s : ChunkStream) (reason : String) :
    q.Deeds ({ q with gate := (s.cancel q.gate reason).2.2.1 }.note
      (s.cancel q.gate reason).2.2.2) := by
  unfold ChunkStream.cancel
  split
  · exact Deeds.note .refl .nil
  · have hw : q.Deeds (q.log .info s!"client stream was cancelled, due to {reason}") :=
      Deeds.log .refl
    have hc := hw.close "client stream cancelled"
    dsimp only
    rw [← List.singleton_append, ← note_note]
    exact hc

end Plumbing

namespace ChunkStream

/-- Events end or fail the stream only with a request to close the client. -/
theorem requested_of_consume {cancelled : Bool} {k k' : Coordinator σ} {h : List Happening}
    {events rest : List ChannelEvent} {item : Poll}
    (hc : consume cancelled k events = (some item, rest, k', h)) :
    (∃ data, item = .chunk data) ∨ k'.requested = true := by
  induction events generalizing k h with
  | nil => cases hc
  | cons e events ih =>
    unfold consume at hc
    rcases hp : produce cancelled k e with ⟨_ | item', k₁, now⟩ <;> rw [hp] at hc
    · rcases hr : consume cancelled k₁ events with ⟨item', rest', k₂, later⟩
      dsimp only at hc
      rw [hr] at hc
      cases hc
      exact ih hr
    · cases hc
      cases e with
      | message data =>
        left
        cases cancelled <;> cases hp
        exact ⟨data, rfl⟩
      | close =>
        right
        cases cancelled <;> cases hp
        exact (k.quiet_close _).2
      | error e =>
        right
        cases hp
        exact (k.quiet_close _).2

end ChunkStream

/-! ### The deeds of a world -/

namespace World

/-- The session is to pass a chunk on, or may take one to pass on, but has no connection for it. -/
def Lacking (w : World σ) : Prop :=
  w.session.active = none ∧ ((∃ chunk kept, w.session.phase = .writing chunk kept) ∨
    w.session.phase = .selecting ∧ w.session.clientOpen = true ∧
      w.session.stage ≠ .awaitingFirstChunk)

/-- One thing that can become of a world in a move. The session complains of a missing connection
only if it `lacks` one before the move. The client's chunks end with a request to close the client,
or when no more events can come; the session stops to take them when they have ended or were
cancelled. -/
inductive Deed (lacks : Prop) (w : World σ) : World σ → Prop
  | beside {q : Plumbing σ} : w.toPlumbing.Deed q → Deed lacks w { w with toPlumbing := q }
  | miss : lacks → Deed lacks w
    (w.log .error s!"client to remote pump has exception: {SessionError.noActiveConnection}")
  | session (f : Session → Session) : (f w.session).clientOpen = w.session.clientOpen →
    Deed lacks w (w.withSession f)
  | events (q : EventQueue) : (w.chunks.events.senderGone = true → q.senderGone = true) →
    Deed lacks w { w with chunks := { w.chunks with events := q } }
  | finish : (w.gate.requested = true ∨ w.chunks.events.senderGone = true) →
    Deed lacks w { w with chunks := { w.chunks with finished := true } }
  | cancel : w.gate.requested = true →
    Deed lacks w { w with chunks := { w.chunks with cancelled := true } }
  | deafen : (w.chunks.finished = true ∨ w.chunks.cancelled = true) →
    Deed lacks w (w.withSession ({ · with clientOpen := false }))

/-- What becomes of a world in a move. -/
abbrev Deeds (lacks : Prop) : World σ → World σ → Prop := Relation.ReflTransGen (Deed lacks)

namespace Deeds

variable {lacks : Prop} {u w w' : World σ} {i : Nat} {chunk : Bytes}

theorem tail (s : Deeds lacks u w) (t : Deed lacks w w') : Deeds lacks u w' :=
  Relation.ReflTransGen.tail s t

theorem lift {q : Plumbing σ} (s : Deeds lacks u w) (h : w.toPlumbing.Deeds q) :
    Deeds lacks u { w with toPlumbing := q } :=
  s.trans (h.lift (fun q => { w with toPlumbing := q }) fun _ _ h => .beside h)

theorem note {h : List Happening} (s : Deeds lacks u w) (hh : Plain h) :
    Deeds lacks u (w.note h) :=
  s.tail (.beside (.note hh))

theorem log {level : Log.Level} {text : String} (s : Deeds lacks u w)
    (hl : level ≠ .error := by decide) : Deeds lacks u (w.log level text) :=
  s.note (by simp [hl])

theorem withTransport {r : Transport × List Happening} (s : Deeds lacks u w)
    (hr : w.transport.Deed r) : Deeds lacks u (w.withTransport r) :=
  s.tail (.beside (.transport hr))

theorem modifyConnection {f : Connection → Connection} (s : Deeds lacks u w)
    (hf : ∀ c, (f c).driver = c.driver) :
    Deeds lacks u { w with transport := w.transport.modifyConnection i f } :=
  s.withTransport (.modify i f hf)

theorem dropConnection (s : Deeds lacks u w) :
    Deeds lacks u { w with toPlumbing := w.toPlumbing.dropConnection i } :=
  s.modifyConnection Connection.driver_drop

theorem withSession {f : Session → Session} (s : Deeds lacks u w)
    (hf : (f w.session).clientOpen = w.session.clientOpen := by rfl) :
    Deeds lacks u (w.withSession f) :=
  s.tail (.session f hf)

theorem setPhase {phase : Session.Phase} (s : Deeds lacks u w) :
    Deeds lacks u (w.setPhase phase) :=
  s.withSession

theorem close (reason : String) (s : Deeds lacks u w) : Deeds lacks u (w.close reason) :=
  s.tail (.beside (.close reason))

theorem enter (next : Stage) (s : Deeds lacks u w) : Deeds lacks u (w.enter next) := by
  unfold World.enter
  split
  · exact s
  · exact s.log.withSession

theorem setActive (active : Option Nat) (s : Deeds lacks u w) :
    Deeds lacks u (w.setActive active) := by
  unfold World.setActive
  cases w.session.active with
  | none => exact s.withSession
  | some i => exact s.dropConnection.withSession

theorem startPump {closesClient : Bool} (s : Deeds lacks u w) :
    Deeds lacks u (w.startPump i closesClient) := by
  have hf : ∀ c : Connection, c.takeReader.2.driver = c.driver := by
    intro c
    unfold Connection.takeReader
    cases c.reader <;> rfl
  have hp := (s.modifyConnection (i := i) hf).tail
    (.beside (.pumps (w.pumps ++ [{ connection := i, closesClient }])))
  exact hp.withSession (f := ({ · with pump := some w.pumps.length }))

theorem open? {d : Destination} (h : w.open? d = some (i, w')) (s : Deeds lacks u w) :
    Deeds lacks u w' := by
  obtain ⟨⟨j, r⟩, ho, he⟩ := Option.map_eq_some_iff.mp h
  cases he
  exact s.withTransport (.opening ho)

theorem release {last : Session.Phase} (s : Deeds lacks u w) : Deeds lacks u (w.release last) := by
  have hl : ∀ v, Deeds lacks u v →
      Deeds lacks u (((v.setActive none).dropEvents).setPhase last) := fun v s =>
    ((s.setActive none).tail (.events (v.setActive none).chunks.events.dropReceiver id)).setPhase
  unfold World.release
  split
  · exact hl _ s.dropConnection
  · exact hl _ s

theorem conclude (s : Deeds lacks u w) : Deeds lacks u w.conclude :=
  (s.enter .done).log.release

theorem finish (s : Deeds lacks u w) : Deeds lacks u w.finish := (s.setActive none).conclude

theorem openFallback {closed : Except IoError Unit} (s : Deeds lacks u w) :
    Deeds lacks u (w.openFallback closed) := by
  -- The outcome of the first connection is a warning.
  have hopen : ∀ v, Deeds lacks u v → Deeds lacks u (v.openFallback (.ok ())) := by
    intro v s
    have hn := fun target => s.note (h := [.log .debug target "connecting via fallback egress"])
      (by simp)
    unfold World.openFallback
    dsimp only
    split
    · exact (hn _).release
    · rename_i ho
      exact ((hn _).open? ho).log.withSession
  cases closed with
  | ok _ => exact hopen w s
  | error e => exact hopen _ s.log

theorem adopt (s : Deeds lacks u w) : Deeds lacks u (w.adopt i) :=
  have hc := s.modifyConnection (i := i) (f := fun c => c.takeClosed.2) fun _ => rfl
  (hc.startPump.setActive (some i)).setPhase

theorem refused (i : Nat) (chunk : Bytes) (s : Deeds lacks u w) :
    Deeds lacks u (w.note [.refused i chunk]) :=
  s.note (by simp [Happening.plain])

theorem leaveFirst? (h : w.leaveFirst? = some w') (s : Deeds lacks u w) : Deeds lacks u w' := by
  unfold World.leaveFirst? at h
  split at h
  · cases h
    exact s.openFallback
  · obtain ⟨closed, -, rfl⟩ := Option.map_eq_some_iff.mp h
    exact (s.modifyConnection (f := fun c => c.takeClosed.2) fun _ => rfl).openFallback

theorem replay? {rest : List Bytes} (h : w.replay? i rest = some w') (s : Deeds lacks u w) :
    Deeds lacks u w' := by
  cases rest with
  | nil =>
    cases h
    exact s.adopt
  | cons chunk rest =>
    obtain ⟨⟨answer, result⟩, ho, h⟩ := Option.map_eq_some_iff.mp h
    cases answer with
    | ok =>
      cases h
      exact (s.withTransport (.offer ho)).log.withSession
    | error e =>
      cases h
      exact (s.refused i chunk).log.setPhase

/-- A poll of the client's chunks; with the last one they are finished. -/
theorem poll {chunks : ChunkStream} {k : Coordinator σ} {h : List Happening} {item : Poll}
    (hp : w.chunks.poll w.gate = (item, chunks, k, h)) (s : Deeds lacks u w) :
    Deeds lacks u ({ w with chunks, gate := k }.note h : World σ) ∧
    ((∀ data, item ≠ .chunk data) → item ≠ .pending → chunks.finished = true) := by
  unfold ChunkStream.poll at hp
  split at hp
  · rename_i hf
    cases hp
    exact ⟨s.note .nil, fun _ _ => hf⟩
  · have hc := s.lift (w.toPlumbing.deeds_consume w.chunks.cancelled w.chunks.events.waiting)
    rcases he : ChunkStream.consume w.chunks.cancelled w.gate w.chunks.events.waiting with
      ⟨given, waiting, k', h'⟩
    rw [he] at hp hc
    -- The events that were consumed are gone.
    have hw := hc.tail (.events { w.chunks.events with waiting } id)
    dsimp only at hp
    split at hp
    · cases hp
      exact ⟨hw, fun hn _ => absurd rfl (hn _)⟩
    · rename_i given hn
      cases hp
      refine ⟨hw.tail (.finish (.inl ?_)), fun _ _ => rfl⟩
      refine (ChunkStream.requested_of_consume he).resolve_left ?_
      exact fun ⟨data, hd⟩ => hn data (by rw [hd])
    · split at hp
      · rename_i hs
        cases hp
        exact ⟨hw.tail (.finish (.inr hs)), fun _ _ => rfl⟩
      · cases hp
        exact ⟨hw, fun _ hn => absurd rfl hn⟩

/-- Chunks that were cancelled have requested the close of the client. -/
theorem cancel (reason : String) (s : Deeds lacks u w) :
    Deeds lacks u (w.cancel reason) ∧ (w.cancel reason).chunks.cancelled = true := by
  have hc := s.lift (w.toPlumbing.deeds_cancel w.chunks reason)
  obtain ⟨-, hcancelled, hr⟩ := w.chunks.quiet_cancel w.gate reason
  refine ⟨?_, hcancelled⟩
  by_cases hs : w.chunks.cancelled
  · have hn : w.chunks.cancel w.gate reason = (false, w.chunks, w.gate, []) := if_pos hs
    unfold World.cancel
    rw [hn] at hc ⊢
    exact hc
  · have hn : (w.chunks.cancel w.gate reason).2.1 = { w.chunks with cancelled := true } := by
      unfold ChunkStream.cancel
      rw [if_neg hs]
    unfold World.cancel
    dsimp only
    rw [hn]
    exact hc.tail (.cancel (hr.trans (by simp [hs])))

/-- The session stops to take the client's chunks when it cancels them. -/
theorem failForwarding {e : SessionError}
    (s : Deeds lacks u (w.log .error s!"client to remote pump has exception: {e}")) :
    Deeds lacks u (w.failForwarding e) := by
  obtain ⟨hc, hcancelled⟩ := s.cancel e.message
  exact (hc.tail (.deafen (.inr hcancelled))).setPhase

theorem beginWrite (hl : w.session.active = none → lacks) (s : Deeds lacks u w) :
    Deeds lacks u (w.beginWrite chunk) := by
  unfold World.beginWrite
  split
  · exact .failForwarding (s.tail (.miss (hl ‹_›)))
  · split <;> exact s.withSession

theorem forward (hl : w.session.stage ≠ .awaitingFirstChunk → w.session.active = none → lacks)
    (s : Deeds lacks u w) : Deeds lacks u (w.forward chunk) := by
  have hn := s.note (h := [.log .debug w.gate.destination "connecting"]) (by simp)
  unfold World.forward
  split
  · dsimp only
    split
    · exact hn.release
    · rename_i i v ho
      have ha := ((hn.open? ho).withSession (f := ({ · with connected := true }))).enter .connected
      exact .beginWrite nofun (ha.startPump.withSession)
  · exact s.beginWrite (hl ‹_›)

theorem take? (hl : w.Lacking → lacks) (h : w.take? = some w') (s : Deeds lacks u w) :
    Deeds lacks u w' := by
  unfold World.take? at h
  split at h
  · rename_i hc
    rcases hp : w.chunks.poll w.gate with ⟨item, chunks, gate, happened⟩
    rw [hp] at h
    obtain ⟨ha, hf⟩ := s.poll hp
    cases item with
    | chunk data =>
      cases h
      refine .forward (fun hw hn => hl ⟨hn, .inr ⟨hc.1, hc.2.1, hw⟩⟩) (ha.note ?_)
      simp [Happening.plain]
    | ended | failed e =>
      cases h
      exact ha.log.tail (.deafen (.inl (hf (by simp) (by simp))))
    | pending =>
      cases h
      exact ha
  · cases h

theorem resumeWrite? {kept : Bool} (hl : w.session.active = none → lacks)
    (h : w.resumeWrite? chunk kept = some w') (s : Deeds lacks u w) : Deeds lacks u w' := by
  unfold World.resumeWrite? at h
  split at h
  · cases h
    exact .failForwarding (s.tail (.miss (hl ‹_›)))
  · rename_i i _
    obtain ⟨⟨answer, result⟩, ho, h⟩ := Option.map_eq_some_iff.mp h
    cases answer with
    | ok =>
      cases h
      exact (s.withTransport (.offer ho)).withSession
    | error e =>
      cases kept with
      | true =>
        cases h
        exact (s.refused i chunk).log.setPhase
      | false =>
        cases h
        have hr := (s.refused i chunk).setActive none
        exact .failForwarding (hr.tail (.beside (.complain (.forwarding e))))

theorem join? (h : w.join? = some w') (s : Deeds lacks u w) : Deeds lacks u w' := by
  unfold World.join? at h
  split at h
  · obtain ⟨k, -, h⟩ := Option.bind_eq_some_iff.mp h
    obtain ⟨outcome, -, rfl⟩ := Option.map_eq_some_iff.mp h
    have hj := s.withSession (f := ({ · with pump := none, hasIncomingData := outcome.delivered }))
    unfold World.pumpEnded
    dsimp only
    split
    · exact hj.log.finish
    · split
      · exact (hj.close _).finish
      · split
        · exact hj.withSession.enter _
        · exact (hj.log.close _).finish
  · cases h

end Deeds

variable {w w' : World σ}

theorem deeds_of_session {branch : Branch} (h : w.sessionStep? branch = some w') :
    Deeds w.Lacking w w' := by
  unfold sessionStep? at h
  split at h
  · rename_i ha
    cases branch with
    | abandon =>
      change w.abandon? = some w' at h
      unfold abandon? at h
      split at h
      iterate 3 cases h
      rw [if_pos ha] at h
      cases h
      exact Deeds.release .refl
    | take | join | resume | finish => cases h
  · cases branch with
    | take => exact .take? id h .refl
    | join => exact .join? h .refl
    | resume =>
      change w.resume? = some w' at h
      unfold resume? at h
      split at h
      · rename_i chunk kept hp
        exact .resumeWrite? (fun hn => ⟨hn, .inl ⟨chunk, kept, hp⟩⟩) h .refl
      · exact .leaveFirst? h .refl
      · exact .replay? h .refl
      all_goals cases h
    | finish =>
      change w.finish? = some w' at h
      unfold finish? at h
      split at h
      · cases h
        exact Deeds.conclude .refl
      · cases h
    | abandon => cases h

theorem deeds_of_outside (w : World σ) (o : Outside σ) : Deeds w.Lacking w (w.outside o) := by
  cases o with
  | client next => exact .single (.beside (.client next))
  | event e =>
    refine .single (.events (w.chunks.events.offer e).2 fun hs => ?_)
    unfold EventQueue.offer
    split
    · exact hs
    · split <;> exact hs
  | noMoreEvents => exact .single (.events _ fun _ => rfl)
  | peer n next => exact .single (.beside (.transport (.peer n next)))
  | abort => exact .single (.session ({ · with abortRequested := true }) rfl)

/-- Every move is a sequence of deeds. -/
theorem deeds_of_move {m : Move σ} (h : w.move? m = some w') : Deeds w.Lacking w w' := by
  cases m with
  | task t =>
    cases t with
    | session branch => exact deeds_of_session h
    | beside task =>
      obtain ⟨q, hq, rfl⟩ := Option.map_eq_some_iff.mp h
      exact Deeds.lift .refl (Plumbing.deeds_of_step? hq)
  | outside o =>
    cases h
    exact w.deeds_of_outside o

end World

end Tunnel
