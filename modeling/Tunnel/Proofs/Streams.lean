import Tunnel.Proofs.Deeds
import Tunnel.Proofs.StalledReplay

/-!
# Streams

The stream that a dial gave belongs to the driver of a connection. The driver keeps it until it
lets go of it, which shows in the trace; nobody else touches it. When a session is over, all its
drivers let go and all its pumps come to their end.

## Main definitions

* `Transport.stream?`, `World.streams` — the dials whose streams are held.
* `Plumbing.Keeps` — streams stay held until they are released.

## Main statements

* `Transport.stream?_of_step?` — what a driver does to streams.
* `World.keeps_of_run` — what a run does to them.
* `World.nothing_left` — what is left at rest when a session is over.
-/

namespace Tunnel

namespace Connection

variable {i dial : Nat} {c c' : Connection} {e : Endpoint} {p : Progress} {h : List Happening}

/-- A driver that goes on keeps its stream, and one that does not releases it. -/
theorem stream?_continueWith (id : Nat) (c : Connection) (e : Endpoint) (dial : Nat)
    (reading : Reading) (writing : Writing) (h : List Happening) :
    (c.continueWith id e dial reading writing h).connection.stream? = some dial ∨
      .released id dial ∈ (c.continueWith id e dial reading writing h).happened := by
  cases reading <;> cases writing <;> simp [continueWith, stream?]

theorem stream?_of_streaming {reading : Reading} {writing : Writing} {dial' : Nat}
    (hd : c.driver = .streaming dial' reading writing) (hs : c.stream? = some dial) :
    dial' = dial := by
  simpa [stream?, hd] using hs

theorem stream?_of_read? (hr : c.read? i e = some p) (hs : c.stream? = some dial) :
    p.connection.stream? = some dial ∨ .released i dial ∈ p.happened := by
  unfold read? at hr
  split at hr
  · obtain rfl := stream?_of_streaming ‹_› hs
    split at hr <;> cases hr <;> exact stream?_continueWith ..
  · obtain rfl := stream?_of_streaming ‹_› hs
    split at hr
    · cases hr
      exact stream?_continueWith ..
    split at hr
    · split at hr <;> cases hr <;> exact stream?_continueWith ..
    · cases hr
  · cases hr

theorem stream?_of_write? (hw : c.write? i e = some p) (hs : c.stream? = some dial) :
    p.connection.stream? = some dial ∨ .released i dial ∈ p.happened := by
  unfold write? at hw
  split at hw
  · obtain rfl := stream?_of_streaming ‹_› hs
    split at hw
    · split at hw <;> cases hw
      exact stream?_continueWith ..
    all_goals
      cases hw
      exact stream?_continueWith ..
  · obtain rfl := stream?_of_streaming ‹_› hs
    split at hw <;> cases hw <;> exact stream?_continueWith ..
  · cases hw

theorem stream?_of_discard? (hd : c.discard? i = some (c', h)) (hs : c.stream? = some dial) :
    .released i dial ∈ h := by
  unfold discard? at hd
  unfold stream? at hs
  split at hd
  · split at hd <;> cases hd <;> simp_all
  · cases hd

end Connection

namespace Transport

variable {t t' : Transport} {i j dial : Nat} {h : List Happening}

/-- The dial whose stream connection number `i` holds. -/
def stream? (t : Transport) (i : Nat) : Option Nat := (t.connections[i]?).bind (·.stream?)

/-- What becomes of the streams when one connection changes. -/
theorem stream?_of_set {c c' : Connection} (hc : t.connections[i]? = some c)
    (hset : t'.connections = t.connections.set i c')
    (hk : c.stream? = some dial → c'.stream? = some dial ∨ .released i dial ∈ h)
    (hs : t.stream? j = some dial) : t'.stream? j = some dial ∨ .released j dial ∈ h := by
  unfold stream? at hs ⊢
  rw [hset, List.getElem?_set]
  by_cases hj : i = j
  · subst hj
    simpa [hc, (List.getElem?_eq_some_iff.mp hc).1] using hk (by simpa [hc] using hs)
  · exact .inl (by simpa [hj] using hs)

/-- A stream stays where it is until its driver releases it. -/
theorem stream?_of_step? {part : Driver.Part} (hstep : t.step? i part = some (t', h))
    (hs : t.stream? j = some dial) : t'.stream? j = some dial ∨ .released j dial ∈ h := by
  unfold step? at hstep
  obtain ⟨c, hc, hstep⟩ := Option.bind_eq_some_iff.mp hstep
  cases part with
  | dial =>
    obtain ⟨⟨c', h⟩, hd, hstep⟩ := Option.map_eq_some_iff.mp hstep
    cases hstep
    refine stream?_of_set hc rfl (fun hs => ?_) hs
    unfold Connection.dial? at hd
    split at hd
    · simp [Connection.stream?, *] at hs
    · cases hd
  | connect =>
    dsimp only at hstep
    split at hstep
    · obtain ⟨⟨c', h⟩, -, hstep⟩ := Option.map_eq_some_iff.mp hstep
      cases hstep
      refine stream?_of_set hc rfl (fun hs => ?_) hs
      simp [Connection.stream?, *] at hs
    · cases hstep
  | read =>
    obtain ⟨dial', -, hstep⟩ := Option.bind_eq_some_iff.mp hstep
    obtain ⟨p, hr, hstep⟩ := Option.map_eq_some_iff.mp hstep
    cases hstep
    exact stream?_of_set hc rfl (Connection.stream?_of_read? hr) hs
  | write =>
    obtain ⟨dial', -, hstep⟩ := Option.bind_eq_some_iff.mp hstep
    obtain ⟨p, hw, hstep⟩ := Option.map_eq_some_iff.mp hstep
    cases hstep
    exact stream?_of_set hc rfl (Connection.stream?_of_write? hw) hs
  | discard =>
    obtain ⟨⟨c', h⟩, hd, hstep⟩ := Option.map_eq_some_iff.mp hstep
    cases hstep
    exact stream?_of_set hc rfl (fun hs => .inr (Connection.stream?_of_discard? hd hs)) hs

/-- What changes nothing about the driver of a connection changes no stream. -/
@[simp] theorem stream?_modifyConnection {f : Connection → Connection}
    (hf : ∀ c, (f c).driver = c.driver) (t : Transport) (i j : Nat) :
    (t.modifyConnection i f).stream? j = t.stream? j := by
  have hs : ∀ c, (f c).stream? = c.stream? := fun c => by simp [Connection.stream?, hf]
  unfold stream? modifyConnection
  rw [List.getElem?_modify]
  split <;> cases t.connections[j]? <;> simp [hs]

theorem stream?_setConnection {c c' : Connection} (hc : t.connections[i]? = some c)
    (hd : c'.driver = c.driver) (j : Nat) : (t.setConnection i c').stream? j = t.stream? j := by
  unfold stream? setConnection
  rw [List.getElem?_set]
  split
  · rename_i hj
    subst hj
    rw [if_pos (List.getElem?_eq_some_iff.mp hc).1, hc]
    simp [Connection.stream?, hd]
  · rfl

/-- A reader does not touch the stream. -/
theorem stream?_receive (t : Transport) (i j : Nat) :
    (t.receive i).2.1.stream? j = t.stream? j := by
  unfold receive
  split
  · rfl
  · rename_i c hc
    have hd : c.receive.2.driver = c.driver := by
      unfold Connection.receive
      split <;> rfl
    split <;> rename_i he <;> exact stream?_setConnection hc (by simpa [he] using hd) j

/-- Neither does an owner that writes. -/
theorem stream?_of_offer? {chunk : Bytes} {answer : Except IoError Unit}
    (ho : t.offer? i chunk = some (answer, t', h)) (j : Nat) : t'.stream? j = t.stream? j := by
  unfold offer? at ho
  split at ho
  · cases ho
    rfl
  · rename_i c hc
    split at ho
    · cases ho
    · cases ho
      rfl
    · rename_i c' he
      cases ho
      refine stream?_setConnection hc ?_ j
      unfold Connection.offer? at he
      split at he
      · cases he
      · split at he <;> cases he
        rfl

/-- A new connection holds no stream. -/
theorem stream?_of_open? {d : Destination} {capacity : Nat}
    (ho : t.open? d capacity = some (i, t', h)) (j : Nat) : t'.stream? j = t.stream? j := by
  unfold open? at ho
  dsimp only at ho
  split at ho <;> cases ho
  unfold stream?
  rw [List.getElem?_append]
  split
  · rfl
  · rename_i hj
    have hn := List.getElem?_eq_none (Nat.le_of_not_lt hj)
    rw [hn]
    cases hf : [Connection.fresh d capacity][j - t.connections.length]? with
    | none => rfl
    | some c =>
      obtain rfl := List.mem_singleton.mp (List.mem_of_getElem? hf)
      rfl

/-- Whatever becomes of a transport, a stream stays where it is until its driver releases it. -/
theorem Deed.stream? {r : Transport × List Happening} (s : t.Deed r)
    (hs : t.stream? j = some dial) : r.1.stream? j = some dial ∨ .released j dial ∈ r.2 := by
  cases s with
  | driver hstep => exact stream?_of_step? hstep hs
  | receive i => exact .inl ((t.stream?_receive i j).trans hs)
  | offer ho => exact .inl ((stream?_of_offer? ho j).trans hs)
  | opening ho => exact .inl ((stream?_of_open? ho j).trans hs)
  | modify i f hf => exact .inl ((stream?_modifyConnection hf t i j).trans hs)
  | peer => exact .inl hs

end Transport

/-! ### Streams of a world -/

/-- Nothing that has happened is forgotten, and a stream stays where it is until it is released. -/
structure Plumbing.Keeps {σ : Type} (q q' : Plumbing σ) : Prop where
  trace : q.trace <:+ q'.trace
  stream : ∀ i dial, q.transport.stream? i = some dial →
    q'.transport.stream? i = some dial ∨ .released i dial ∈ q'.trace

namespace Plumbing

variable {σ : Type} {q q' q'' : Plumbing σ}

theorem Keeps.refl (q : Plumbing σ) : q.Keeps q := ⟨List.suffix_rfl, fun _ _ => .inl⟩

theorem Keeps.trans (s : q.Keeps q') (t : q'.Keeps q'') : q.Keeps q'' where
  trace := s.trace.trans t.trace
  stream i dial hs := (s.stream i dial hs).elim (t.stream i dial) fun hr =>
    .inr (t.trace.subset hr)

/-- What is noted changes nothing. -/
theorem Keeps.of_transport_eq (ht : q'.transport = q.transport) (hn : q.trace <:+ q'.trace) :
    q.Keeps q' :=
  ⟨hn, fun _ _ hs => .inl (ht ▸ hs)⟩

variable [ClientChannel σ]

theorem Deed.keeps (s : q.Deed q') : q.Keeps q' := by
  cases s with
  | note | complain | close => exact .of_transport_eq rfl (List.suffix_append ..)
  | client | pumps => exact .of_transport_eq rfl List.suffix_rfl
  | transport s =>
    refine ⟨List.suffix_append .., fun i dial hs => (s.stream? hs).imp_right fun hr => ?_⟩
    simp [withTransport, Plumbing.note, hr]

end Plumbing

namespace World

variable {σ : Type} [ClientChannel σ] {w w' : World σ} {lacks : Prop}

theorem Deed.keeps (s : Deed lacks w w') : w.toPlumbing.Keeps w'.toPlumbing := by
  cases s with
  | beside s => exact s.keeps
  | miss => exact .of_transport_eq rfl (List.suffix_append ..)
  | session | events | finish | cancel | deafen => exact .refl _

theorem Deeds.keeps (s : Deeds lacks w w') : w.toPlumbing.Keeps w'.toPlumbing := by
  induction s with
  | refl => exact .refl _
  | tail _ s ih => exact ih.trans s.keeps

/-- Every move keeps the streams that it does not release. -/
theorem keeps_of_move {m : Move σ} (h : w.move? m = some w') :
    w.toPlumbing.Keeps w'.toPlumbing :=
  (deeds_of_move h).keeps

/-- So does a run. -/
theorem keeps_of_run {moves : List (Move σ)} (h : w.run? moves = some w') :
    w.toPlumbing.Keeps w'.toPlumbing := by
  induction moves generalizing w with
  | nil =>
    cases h
    exact .refl _
  | cons m rest ih =>
    obtain ⟨v, hv, hr⟩ := Option.bind_eq_some_iff.mp h
    exact (keeps_of_move hv).trans (ih hr)

/-- A run forgets nothing. -/
theorem history_isPrefix {moves : List (Move σ)} (h : w.run? moves = some w') :
    w.history <+: w'.history :=
  List.reverse_prefix.mpr (keeps_of_run h).trace

/-! ### What is left -/

/-- The dials whose streams are held. -/
def streams (w : World σ) : List Nat := w.transport.connections.filterMap (·.stream?)

/-- At rest, the drivers of a session that is over are gone. -/
theorem Quiescent.stopped_of_isOver {c : Connection} (hq : w.Quiescent) (hs : w.relay.Sound)
    (ho : w.session.isOver = true) (hc : c ∈ w.transport.connections) : c.driver = .stopped := by
  obtain ⟨i, hc⟩ := List.mem_iff_getElem?.mp hc
  exact hq.driver_stopped hc (discarded_of_isOver hs ho hc)

/-- At rest, the pumps of a session that is over have come to their end, since the read loops have
ended and the outcomes of the connections are settled. -/
theorem Quiescent.pump_over {p : Pump} (hq : w.Quiescent) (hs : w.relay.Sound)
    (ho : w.session.isOver = true) (hp : p ∈ w.pumps) :
    (∃ outcome, p.phase = .ended outcome) ∨ ∃ reason, p.phase = .crashed reason := by
  obtain ⟨k, hp⟩ := List.mem_iff_getElem?.mp hp
  obtain ⟨c, hc⟩ := hs.shape.connection_of_pump hp
  have hstopped := hq.stopped_of_isOver hs ho (List.mem_of_getElem? hc)
  cases hph : p.phase with
  | running =>
    have hr := (hq.drained hs hp hph hc).2.2
    simp [Connection.readable, hstopped] at hr
  | settling outcome =>
    obtain ⟨-, c', dial, room, writing, hc', hd, -⟩ := hq.silent hs hp hph
    obtain rfl : c = c' := Option.some.inj (hc.symm.trans hc')
    simp [hstopped] at hd
  | ended outcome => exact .inl ⟨outcome, rfl⟩
  | crashed reason => exact .inr ⟨reason, rfl⟩

variable {engine : Engine} {d : Destination} {client : σ} {eventCapacity : Nat}
  {peers : List Peer} {moves : List (Move σ)}

/-- When a session is over or was told to stop, nothing of it is left at rest: every driver is gone,
whatever it waited for; no stream is held and no dial awaits its answer; every pump is over; and
every stream that was ever held has been released. -/
theorem nothing_left (h : (start engine d client eventCapacity peers).run? moves = some w)
    (hq : w.Quiescent) (ho : w.session.isOver = true ∨ w.session.abortRequested = true) :
    (∀ c ∈ w.transport.connections, c.driver = .stopped) ∧ w.streams = [] ∧
    (∀ dial, w.transport.awaits dial = false) ∧
    (∀ p ∈ w.pumps, (∃ outcome, p.phase = .ended outcome) ∨ ∃ reason, p.phase = .crashed reason) ∧
    ∀ before after v i dial, moves = before ++ after →
      (start engine d client eventCapacity peers).run? before = some v →
      v.transport.stream? i = some dial → .released i dial ∈ w.history := by
  have hs := sound_of_run h
  have hover : w.session.isOver = true := by
    refine ho.elim id fun ha => by_contra fun hn => ?_
    simp [hq.not_abortRequested (by simpa using hn)] at ha
  have hstopped := fun c hc => hq.stopped_of_isOver hs hover (c := c) hc
  refine ⟨hstopped, ?_, fun dial => ?_, fun p hp => hq.pump_over hs hover hp, ?_⟩
  · exact List.filterMap_eq_nil_iff.mpr fun c hc => by simp [Connection.stream?, hstopped c hc]
  · exact List.any_eq_false.mpr fun c hc => by simp [hstopped c hc]
  · rintro before after v i dial rfl hv hheld
    rw [run?_append, hv, Option.bind_some] at h
    refine List.mem_reverse.mpr (((keeps_of_run h).stream i dial hheld).resolve_left fun hn => ?_)
    obtain ⟨c, hc, hn⟩ := Option.bind_eq_some_iff.mp hn
    simp [Connection.stream?, hstopped c (List.mem_of_getElem? hc)] at hn

/-- The session is told to stop in the middle of its replay. -/
def stalledAbort : List (Move ScriptedClient) :=
  [.outside .abort, .session .abandon, .driver 0 .discard, .driver 1 .discard]

theorem nothing_left_stalled : ∃ v w, stalledThen [] = some v ∧ v.streams = [0, 1] ∧
    stalledThen stalledAbort = some w ∧ w.Quiescent ∧ w.session.abortRequested = true ∧
    w.streams = [] ∧ .released 0 0 ∈ w.history ∧ .released 1 1 ∈ w.history := by
  have hheld : (stalledThen []).map (fun v => (v.streams, v.transport.stream? 0,
      v.transport.stream? 1)) = some ([0, 1], some 0, some 1) := by rfl
  have hrun : (stalledThen stalledAbort).map (fun w =>
      (decide w.Quiescent, w.session.abortRequested)) = some (true, true) := by rfl
  obtain ⟨v, hv, he⟩ := Option.map_eq_some_iff.mp hheld
  obtain ⟨w, hw, he'⟩ := Option.map_eq_some_iff.mp hrun
  simp only [Prod.mk.injEq, decide_eq_true_eq] at he he'
  obtain ⟨hq, ha⟩ := he'
  obtain ⟨-, hs, -, -, hr⟩ := nothing_left hw hq (.inr ha)
  have hreleased : ∀ i dial, v.transport.stream? i = some dial → .released i dial ∈ w.history :=
    fun i dial => hr _ stalledAbort v i dial (by simp) hv
  exact ⟨v, w, hv, he.1, hw, hq, ha, hs, hreleased 0 0 he.2.1, hreleased 1 1 he.2.2⟩

end World

end Tunnel
