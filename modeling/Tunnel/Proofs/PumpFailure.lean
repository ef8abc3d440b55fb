import Tunnel.Proofs.BlockedWrite

/-!
# Failed pumps

A pump that fails ends the session and its stream, unless the session is stuck in a write to the
pump's connection, or the pump itself waits for the connection's outcome. The first connection's
pump never does that. The fallback connection's does, since it closes the client only then; and
the outcome is settled by the read loop, which learns that its reader is gone at the next thing
that it reads. So a remote that sends no more keeps the session, unless the failure was a read
error, which is the end of the read loop.

## Main definitions

* `World.Terminated` — the session has ended, and the stream of a connection is dropped.
* `World.Silent` — a pump waits for the outcome of a connection whose remote sends no more.

## Main statements

* `World.terminated_iff` — exactly when the failure of a pump is terminal at rest.
-/

namespace Tunnel

namespace World

variable {σ : Type}

/-- The session has ended and the close of the client was requested, or it was told to stop; and
the driver of connection number `k` is gone, with its stream. -/
def Terminated (w : World σ) (k : Nat) : Prop :=
  ((∃ report, w.session.phase = .ended report ∧ report.closeRequested = true) ∨
    w.session.phase = .aborted) ∧
  ∃ c, w.transport.connections[k]? = some c ∧ c.driver = .stopped

/-- Pump number `k` has its outcome and waits for that of its connection, whose read loop waits
for the remote. -/
def Silent (w : World σ) (k : Nat) : Prop :=
  (∃ p outcome, w.pumps[k]? = some p ∧ p.phase = .settling outcome) ∧
  ∃ c dial room writing, w.transport.connections[k]? = some c ∧
    c.driver = .streaming dial (.reading room) writing ∧
    ((w.transport.endpoint dial).read room).1 = .pending

variable {w : World σ} {k : Nat} {p : Pump} {b : Bool} {e : SessionError}

theorem Stuck.not_terminated (h : w.Stuck k) : ¬w.Terminated k := by
  obtain ⟨-, -, c, dial, reading, rest, hc, -, hd, -⟩ := h
  rintro ⟨-, c', hc', hd'⟩
  obtain rfl : c = c' := by simpa [hc] using hc'
  simp [hd] at hd'

theorem Silent.not_terminated (h : w.Silent k) : ¬w.Terminated k := by
  obtain ⟨-, c, dial, room, writing, hc, hd, -⟩ := h
  rintro ⟨-, c', hc', hd'⟩
  obtain rfl : c = c' := by simpa [hc] using hc'
  simp [hd] at hd'

/-- Only the pump of the fallback connection waits for the connection's outcome. -/
theorem Silent.eq_one (h : w.Silent k) (hs : w.relay.Sound) : k = 1 := by
  obtain ⟨⟨p, outcome, hp, hph⟩, -⟩ := h
  obtain ⟨c, hc⟩ := hs.shape.connection_of_pump hp
  exact (hs.shape.pumps k p hp).2.mp ((hs.fits.parting_of_pump hc hp).settling p _ rfl hph)

/-- No remote is silent after a read error. -/
theorem Silent.ne_remote (h : w.Silent k) (hs : w.relay.Sound) (hp : w.pumps[k]? = some p)
    (hl : p.Left (.failed b e)) (err : IoError) : e ≠ .remote err := by
  rintro rfl
  obtain ⟨-, c, dial, room, writing, hc, hd, -⟩ := h
  have hr := (hs.fits.parting_of_pump hc hp).unreadable p b err rfl hl
  simp [Connection.readable, hd] at hr

/-- A session that is over has dropped all its connections. -/
theorem discarded_of_isOver {i : Nat} {c : Connection} (hs : w.relay.Sound)
    (ho : w.session.isOver = true) (hc : w.transport.connections[i]? = some c) :
    c.discarded = true := by
  by_contra hd
  rw [Bool.not_eq_true] at hd
  have ha : w.session.active = none := hs.shape.stands.active_of_isOver ho
  have ht : w.session.target? = none := by
    cases hp : w.session.phase <;> simp_all [Session.isOver, Session.target?]
  have h : w.session.active = some i ∨ w.session.target? = some i :=
    hs.openings.discarded i c hc hd
  simp [ha, ht] at h

variable [ClientChannel σ]

/-- At rest, a pump that waits for the outcome of its connection has a silent remote. -/
theorem Quiescent.silent {outcome : PumpOutcome} (hq : w.Quiescent) (hs : w.relay.Sound)
    (hp : w.pumps[k]? = some p) (hph : p.phase = .settling outcome) : w.Silent k := by
  obtain ⟨c, hc⟩ := hs.shape.connection_of_pump hp
  have hread := hs.fits.readSide_of_pump hc hp
  have hclosed := hq.closed_eq_none hs hp hph hc
  have hreadable : c.readable = true := by
    by_contra hr
    have := hread.connection.closed (by simpa using hr)
    simp [hclosed] at this
  have hdec : c.decided = true := hread.decided p rfl (by simp [hph])
  have hr : c.reader = .dropped := (hs.fits.parting_of_pump hc hp).reader p rfl (by simp [hph])
  obtain ⟨dial, room, writing, hd, hm⟩ := hq.driver_reading hc hdec hreadable hr
  exact ⟨⟨p, outcome, hp, hph⟩, c, dial, room, writing, hc, hd, hm⟩

omit [ClientChannel σ] in
/-- A session whose first pump failed does not go over to the fallback connection. -/
theorem opensFallback_of_failed (hs : w.relay.Sound) (hp : w.pumps[0]? = some p)
    (he : p.phase = .ended (.failed b e)) : opensFallback w.history = false := by
  by_contra ho
  rw [Bool.not_eq_false, ← opensFallback_relay_flow, hs.shape.opens] at ho
  have hret : w.session.retried = true := hs.shape.stands.retried_of_two ho
  obtain ⟨q, hq, heq⟩ := hs.messages.retired hret
  obtain rfl : p = q := Option.some_inj.mp (hp.symm.trans hq)
  simp [he] at heq

/-- At rest, the failure of a pump is terminal unless it is stopped by a blocked write or by a
silent remote. -/
theorem Quiescent.terminated (hq : w.Quiescent) (hs : w.relay.Sound)
    (hp : w.pumps[k]? = some p) (hl : p.Left (.failed b e)) (hstuck : ¬w.Stuck k)
    (hsilent : ¬w.Silent k) : w.Terminated k := by
  have he : p.phase = .ended (.failed b e) :=
    hl.resolve_left fun hph => hsilent (hq.silent hs hp hph)
  have hend : (∃ report, w.session.phase = .ended report ∧ report.closeRequested = true) ∨
      w.session.phase = .aborted := by
    rcases hq.handled_of_not_stuck hs hp he hstuck with h | h | ⟨rfl, ho⟩
    · exact .inl h
    · exact .inr h
    · simp [opensFallback_of_failed hs hp he] at ho
  obtain ⟨c, hc⟩ := hs.shape.connection_of_pump hp
  have hover : w.session.isOver = true := by
    rcases hend with ⟨report, h, -⟩ | h <;> simp [Session.isOver, h]
  exact ⟨hend, c, hc, hq.driver_stopped hc (discarded_of_isOver hs hover hc)⟩

variable {engine : Engine} {d : Destination} {client : σ} {eventCapacity : Nat}
  {peers : List Peer} {moves : List (Move σ)}

/-- At rest, the failure of a pump has ended the session and its stream exactly if the session is
not stuck in a write to the pump's connection and the remote is not silent. Only the fallback
connection's remote can be, and not after a read error. -/
theorem terminated_iff (h : (start engine d client eventCapacity peers).run? moves = some w)
    (hq : w.Quiescent) (hp : w.pumps[k]? = some p) (hl : p.Left (.failed b e)) :
    (w.Terminated k ↔ ¬w.Stuck k ∧ ¬w.Silent k) ∧
      (w.Silent k → k = 1 ∧ ∀ err, e ≠ .remote err) := by
  have hs := sound_of_run h
  refine ⟨⟨fun ht => ⟨?_, ?_⟩, fun ⟨hstuck, hsilent⟩ => ?_⟩, fun hsi => ⟨?_, ?_⟩⟩
  · exact fun hst => hst.not_terminated ht
  · exact fun hsi => hsi.not_terminated ht
  · exact hq.terminated hs hp hl hstuck hsilent
  · exact hsi.eq_one hs
  · exact hsi.ne_remote hs hp hl

/-- The client is not open any more when the remote's chunk reaches it. -/
def refusedChunk : Option (World ScriptedClient) :=
  (start { fallbackHost := "fallback" } { host := "first", port := 80 } {} 8
    [⟨.accepted, { reads := [.ok [9]] }⟩]).run?
    [.event (.message [1]), .session .take, .session .resume, .outside (.client { code := 2 }),
      .driver 0 .dial, .driver 0 .connect, .driver 0 .read, .driver 0 .read, .pump 0,
      .session .join, .driver 0 .discard]

theorem terminated_iff_refused_chunk : ∃ w p, refusedChunk = some w ∧ w.Quiescent ∧
    w.pumps[0]? = some p ∧ p.Left (.failed true .clientNotOpen) ∧ w.Terminated 0 := by
  have hrun : refusedChunk.map (fun w => (decide w.Quiescent, w.session.active,
      w.pumps[0]?.map (·.phase))) =
    some (true, none, some (.ended (.failed true .clientNotOpen))) := by rfl
  obtain ⟨w, hw, he⟩ := Option.map_eq_some_iff.mp hrun
  simp only [Prod.mk.injEq, decide_eq_true_eq, Option.map_eq_some_iff] at he
  obtain ⟨hq, ha, p, hp, hph⟩ := he
  obtain ⟨hiff, hsilent⟩ := terminated_iff hw hq hp (.inr hph)
  refine ⟨w, p, hw, hq, hp, .inr hph, hiff.mpr ⟨fun hs => ?_, fun hs => ?_⟩⟩
  · simp [Stuck, ha] at hs
  · exact absurd (hsilent hs).1 (by decide)

/-- The first dial is refused. The fallback connection's chunk finds the client no longer open,
and its remote sends no more. -/
def silenced : Option (World ScriptedClient) :=
  (start { fallbackHost := "fallback" } { host := "first", port := 80 } {} 8
    [{ answer := .refused { kind := .connectionRefused } }, { answer := .accepted }]).run?
    [.event (.message [1]), .session .take, .session .resume, .driver 0 .dial,
      .driver 0 .connect, .pump 0, .session .join, .session .resume, .session .resume,
      .session .resume, .driver 1 .dial, .driver 1 .connect, .driver 1 .write, .driver 1 .write,
      .outside (.client { code := 2 }),
      .outside (.peer 1 ⟨.accepted, { reads := [.ok [9]] }⟩),
      .driver 1 .read, .driver 1 .read, .pump 1]

/-- The failure of the fallback connection's pump ends nothing while the remote is silent. -/
theorem silenced_not_terminated : ∃ w, silenced = some w ∧ w.Quiescent ∧
    w.session.current? = some 1 ∧
    w.pumps[1]?.map (·.phase) = some (.settling (.failed true .clientNotOpen)) ∧
    ¬w.Terminated 1 := by
  have hrun : silenced.map (fun w => (decide w.Quiescent, w.session.current?,
      w.pumps[1]?.map (·.phase), w.session.phase)) =
    some (true, some 1, some (.settling (.failed true .clientNotOpen)), .selecting) := by rfl
  obtain ⟨w, hw, he⟩ := Option.map_eq_some_iff.mp hrun
  simp only [Prod.mk.injEq, decide_eq_true_eq] at he
  obtain ⟨hq, hc, hp, hph⟩ := he
  exact ⟨w, hw, hq, hc, hp, by simp [Terminated, hph]⟩

end World

end Tunnel
