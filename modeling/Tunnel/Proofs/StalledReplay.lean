import Tunnel.Client.Scripted
import Tunnel.Proofs.PumpFailure
import Tunnel.Proofs.RemoteToClient

/-!
# Stalled replays

The fallback connection gets its pump only once the whole replay is in its queue. So a session
that waits for room there neither passes on what the fallback connection has read nor learns that
nothing more can be read. Otherwise everything that the current connection has read reaches the
client, unless its pump breaks off.

## Main definitions

* `World.Stalled` — the session waits in its replay for room in a queue.
* `World.BrokeOff` — a pump has gone at a chunk that it did not send.

## Main statements

* `World.sent_all_iff` — exactly when all that was read is sent at rest, and when the end of the
  fallback connection ends the session.
-/

namespace Tunnel

namespace World

variable {σ : Type}

/-- The session waits in its replay for room in the queue of the fallback connection. -/
def Stalled (w : World σ) : Prop :=
  (∃ rest, w.session.phase = .replaying 1 rest) ∧
  ∃ c, w.transport.connections[1]? = some c ∧ c.writable = true ∧ c.outbox.length = c.capacity

/-- Pump number `i` has gone at a chunk that it did not send. -/
def BrokeOff (w : World σ) (i : Nat) : Prop := ∃ p, w.pumps[i]? = some p ∧ p.BrokeOff

variable {w : World σ} {i : Nat} {c : Connection} {p : Pump}

theorem Stalled.not_isOver (h : w.Stalled) : w.session.isOver = false := by
  obtain ⟨⟨rest, hp⟩, -⟩ := h
  simp [Session.isOver, hp]

theorem Stuck.not_isOver {k : Nat} (h : w.Stuck k) : w.session.isOver = false := by
  obtain ⟨-, ⟨chunk, kept, hp⟩, -⟩ := h
  simp [Session.isOver, hp]

/-- A session that is over has no current connection. -/
theorem current?_of_isOver (hs : w.relay.Sound) (ho : w.session.isOver = true) :
    w.session.current? = none := by
  have ha : w.session.active = none := hs.shape.stands.active_of_isOver ho
  cases hp : w.session.phase <;> simp_all [Session.isOver, Session.current?, Session.target?]

/-- Nothing is sent during a replay: the first connection gave nothing, and the other one has no
pump yet. -/
theorem sent_of_replaying {rest : List Bytes} (hs : w.relay.Sound)
    (hp : w.session.phase = .replaying i rest) : passed .sent w.history = [] := by
  obtain ⟨-, -, hm, hret, -⟩ := hs.shape.stands.of_replaying hp
  have hsrc : w.relay.source = 1 := if_pos hret
  have hnone : passed (.handedOut 1) w.relay.flow = [] :=
    hs.fits.handedOut_of_no_pump (List.getElem?_eq_none (by simp [hm]))
  have hsent := hs.messages.sent
  rwa [hsrc, hnone, List.prefix_nil, passed_relay_flow] at hsent

/-- The chunk that a pump breaks off at was read but not sent. -/
theorem BrokeOff.not_sent (h : w.BrokeOff i) (hs : w.relay.Sound) :
    passed .sent w.history ≠ passed (.received i) w.history := by
  obtain ⟨p, hp, hb⟩ := h
  have hn : p.phase ≠ .ended (.finished false) := by
    intro he
    simp [Pump.BrokeOff, Pump.Left, he] at hb
  obtain rfl : i = w.relay.source := hs.messages.source_eq hs.shape hp hn
  obtain ⟨chunk, hlast⟩ := hs.messages.broken p hp hb
  have hread := (hs.handedOut_isPrefix w.relay.source).length_le
  simp only [hlast, passed_relay_flow, List.length_append, List.length_singleton] at hread
  intro he
  rw [he] at hread
  omega

variable [ClientChannel σ]

namespace Quiescent

/-- A session that replays at rest is stalled. -/
theorem stalled {rest : List Bytes} (hq : w.Quiescent) (hs : w.relay.Sound)
    (hp : w.session.phase = .replaying i rest) : w.Stalled := by
  obtain ⟨rfl, -⟩ := hs.shape.stands.of_replaying hp
  have hi : w.session.inHand ≠ [] := by
    intro hi
    have hsel := hq.selecting_of_inHand hs (by simp [Session.isOver, hp]) hi
    simp [hp] at hsel
  obtain ⟨i, c, hcur, hc, hw, hfull⟩ := hq.blocked hs hi
  obtain rfl : 1 = i := by simpa [Session.current?, Session.target?, hp] using hcur
  exact ⟨⟨rest, hp⟩, c, hc, hw, hfull⟩

/-- At rest, a pump that has not broken off has been handed all that was read. -/
theorem handedOut_eq (hq : w.Quiescent) (hs : w.relay.Sound) (hp : w.pumps[i]? = some p)
    (hc : w.transport.connections[i]? = some c) (hd : c.discarded = false) (hb : ¬p.BrokeOff) :
    passed (.handedOut i) w.history = passed (.received i) w.history := by
  have hdrain := hs.fits.draining_of_pump hc hp
  rcases Pump.sawEnd_of_not_brokeOff hb with hr | hsaw
  · obtain ⟨hinbox, hhand, -⟩ := hq.drained hs hp hr hc
    have htaken : c.reader = .taken := (hs.fits.readSide_of_pump hc hp).running p rfl hr
    have hw := hdrain.whole hd (by simp [htaken])
    simpa [hinbox, hhand] using hw
  · simpa using hdrain.seen p rfl hsaw hd

/-- The current connection gets a replay, or it is the active one and has a pump. -/
theorem current_cases (hq : w.Quiescent) (hs : w.relay.Sound) (hi : w.session.current? = some i) :
    (∃ rest, w.session.phase = .replaying i rest) ∨
    (w.session.phase = .selecting ∨ ∃ chunk kept, w.session.phase = .writing chunk kept) ∧
      w.session.active = some i ∧ ∃ p, w.pumps[i]? = some p := by
  have ho : w.session.isOver = false := by
    by_contra ho
    simp [current?_of_isOver hs (by simpa using ho)] at hi
  have hselect :
      (w.session.phase = .selecting ∨ ∃ chunk kept, w.session.phase = .writing chunk kept) →
      (w.session.phase = .selecting ∨ ∃ chunk kept, w.session.phase = .writing chunk kept) ∧
        w.session.active = some i ∧ ∃ p, w.pumps[i]? = some p := by
    intro hp
    have ha : w.session.active = some i := by
      rcases hp with hp | ⟨chunk, kept, hp⟩ <;>
        simpa [Session.current?, Session.target?, hp] using hi
    have hm : w.pumps.length = i + 1 := (hs.shape.stands.of_active hp ha).2.1
    exact ⟨hp, ha, _, List.getElem?_eq_getElem (by omega)⟩
  cases hp : w.session.phase with
  | selecting => exact .inr (hp ▸ hselect (.inl hp))
  | writing chunk kept => exact .inr (hp ▸ hselect (.inr ⟨chunk, kept, hp⟩))
  | leavingFirst => exact absurd hp (hq.phase_ne_leavingFirst hs)
  | replaying k rest =>
    obtain rfl : k = i := by simpa [Session.current?, Session.target?, hp] using hi
    exact .inl ⟨rest, rfl⟩
  | ended | aborted | crashed => simp [Session.isOver, hp] at ho

/-- At rest, the awaited pump is at work, or the session is stuck in a write to its connection, or
the remote is silent. -/
theorem running_of_pump (hq : w.Quiescent) (hs : w.relay.Sound)
    (hph : w.session.phase = .selecting ∨
      w.session.active = some i ∧ ∃ chunk kept, w.session.phase = .writing chunk kept)
    (hk : w.session.pump = some i) (hp : w.pumps[i]? = some p) :
    p.phase = .running ∨ w.Stuck i ∨ w.Silent i := by
  by_cases hr : p.phase = .running
  · exact .inl hr
  · right
    rcases hph with hph | ⟨ha, chunk, kept, hph⟩
    · have hn := hq.outcome_eq_none hph hk hp
      cases hphase : p.phase with
      | running => exact absurd hphase hr
      | settling outcome => exact .inr (hq.silent hs hp hphase)
      | ended | crashed => simp [Pump.outcome?, hphase] at hn
    · exact .inl (hq.stuck hs hp hr hph ha)

/-- At rest, all that the current connection has read is sent unless a replay is stalled or the
pump has broken off. -/
theorem sent_eq (hq : w.Quiescent) (hs : w.relay.Sound) (hi : w.session.current? = some i)
    (hstalled : w.Stalled → passed (.received i) w.history = []) (hb : ¬w.BrokeOff i) :
    passed .sent w.history = passed (.received i) w.history := by
  rcases hq.current_cases hs hi with ⟨rest, hp⟩ | ⟨hph, ha, p, hp⟩
  · rw [sent_of_replaying hs hp, hstalled (hq.stalled hs hp)]
  · obtain ⟨c, hc, hd⟩ := hs.shape.connection_of_current (.inl ha)
    have hb : ¬p.BrokeOff := fun h => hb ⟨p, hp, h⟩
    have hsrc : i = w.relay.source := (hs.shape.stands.of_active hph ha).2.2
    have hsent := hs.messages.unbroken p (hsrc ▸ hp) hb
    rw [← hsrc, passed_relay_flow, passed_relay_flow] at hsent
    rw [hsent, hq.handedOut_eq hs hp hc hd hb]

/-- A fallback connection that nothing can be read from any more ends the session at rest, unless
a replay is stalled or the session is stuck in a write. -/
theorem isOver_of_not_readable (hq : w.Quiescent) (hs : w.relay.Sound)
    (hc : w.transport.connections[1]? = some c) (hr : c.readable = false)
    (hstalled : ¬w.Stalled) (hstuck : ¬w.Stuck 1) : w.session.isOver = true := by
  by_contra ho
  rw [Bool.not_eq_true] at ho
  have hlen : 1 < w.relay.connections.length := (List.getElem?_eq_some_iff.mp hc).1
  cases hs.shape.stands with
  | waiting hn => omega
  | leaving hn => omega
  | replaying _ _ _ _ hp => exact hstalled (hq.stalled hs hp)
  | gone hov => exact absurd hov (by simp [ho])
  | @relaying i hn hm hi _ hph ha hpump =>
    obtain rfl : i = 1 := by split at hi <;> omega
    have hm : w.pumps.length = 2 := hm
    have hp := List.getElem?_eq_getElem (show 1 < w.pumps.length by omega)
    rcases hq.running_of_pump hs hph hpump hp with
      hrun | h | ⟨-, c', dial, room, writing, hc', hd, -⟩
    · simp [(hq.drained hs hp hrun hc).2.2] at hr
    · exact hstuck h
    · obtain rfl : c = c' := by simpa [hc] using hc'
      simp [Connection.readable, hd] at hr

end Quiescent

variable {engine : Engine} {d : Destination} {client : σ} {eventCapacity : Nat}
  {peers : List Peer} {moves : List (Move σ)}

/-- At rest, all that the current connection has read has been sent to the client exactly if the
session is not stalled in its replay with something read, and the connection's pump has not broken
off, as only one of a stuck session or a silent remote can. Once nothing can be read from the
fallback connection any more, the session has ended exactly if it is neither stalled nor stuck. -/
theorem sent_all_iff (h : (start engine d client eventCapacity peers).run? moves = some w)
    (hq : w.Quiescent) :
    (∀ i, w.session.current? = some i →
      (passed .sent w.history = passed (.received i) w.history ↔
        ¬(w.Stalled ∧ passed (.received i) w.history ≠ []) ∧ ¬w.BrokeOff i) ∧
      (w.BrokeOff i → w.Stuck i ∨ w.Silent i)) ∧
    ∀ c, w.transport.connections[1]? = some c → c.readable = false →
      (w.session.isOver = true ↔ ¬w.Stalled ∧ ¬w.Stuck 1) := by
  have hs := sound_of_run h
  refine ⟨fun i hi => ⟨⟨fun he => ⟨?_, ?_⟩, fun ⟨hstalled, hb⟩ => ?_⟩, ?_⟩,
    fun c hc hr => ⟨fun ho => ⟨?_, ?_⟩, fun ⟨hstalled, hstuck⟩ => ?_⟩⟩
  · rintro ⟨⟨⟨rest, hp⟩, -⟩, hn⟩
    exact hn (he ▸ sent_of_replaying hs hp)
  · exact fun hb => hb.not_sent hs he
  · exact hq.sent_eq hs hi (fun hst => by_contra fun hn => hstalled ⟨hst, hn⟩) hb
  · rintro ⟨p, hp, hb⟩
    rcases hq.current_cases hs hi with ⟨rest, hph⟩ | ⟨hph, ha, -⟩
    · -- The fallback connection has no pump yet.
      obtain ⟨rfl, -, hm, -⟩ := hs.shape.stands.of_replaying hph
      have hm : w.pumps.length = 1 := hm
      simp [List.getElem?_eq_none (show w.pumps.length ≤ 1 by omega)] at hp
    · have hk : w.session.pump = some i := hs.shape.stands.pump_eq_active hph ha
      have hrun := hq.running_of_pump hs (hph.imp_right fun hw => ⟨ha, hw⟩) hk hp
      exact hrun.resolve_left fun hr => Pump.not_brokeOff_of_running hr hb
  · exact fun hst => by simp [hst.not_isOver] at ho
  · exact fun hst => by simp [hst.not_isOver] at ho
  · exact hq.isOver_of_not_readable hs hc hr hstalled hstuck

/-- The first dial is refused, and the fallback connection's remote answers the chunk that is
replayed; then `moves` follow. -/
def answeredThen (moves : List (Move ScriptedClient)) : Option (World ScriptedClient) :=
  (start { fallbackHost := "fallback" } { host := "first", port := 80 } {} 8
    [{ answer := .refused { kind := .connectionRefused } },
      { answer := .accepted, endpoint := { reads := [.ok [9]] } }]).run?
    ([.event (.message [1]), .session .take, .session .resume, .driver 0 .dial,
        .driver 0 .connect, .pump 0, .session .join] ++
      List.replicate 3 (.session .resume) ++
      [.driver 1 .dial, .driver 1 .connect, .driver 1 .write, .driver 1 .write, .driver 1 .read,
        .driver 1 .read, .pump 1] ++ moves)

/-- The remote ends, and the session ends with its pump. -/
def farewell : List (Move ScriptedClient) :=
  [.outside (.peer 1 ⟨.accepted, { ends := true }⟩), .driver 1 .read, .pump 1, .pump 1,
    .session .join, .driver 1 .discard]

theorem sent_all_iff_answered :
    (∃ w, answeredThen [] = some w ∧ w.Quiescent ∧ w.session.current? = some 1 ∧
      passed .sent w.history = passed (.received 1) w.history ∧ passed .sent w.history = [[9]]) ∧
    ∃ w, answeredThen farewell = some w ∧ w.Quiescent ∧
      (∃ c, w.transport.connections[1]? = some c ∧ c.readable = false) ∧
      w.session.isOver = true := by
  constructor
  · have hrun : (answeredThen []).map (fun w => (decide w.Quiescent, w.session.current?,
        w.session.phase, w.pumps[1]?.map (·.phase), passed .sent w.history)) =
      some (true, some 1, .selecting, some .running, [[9]]) := by rfl
    obtain ⟨w, hw, he⟩ := Option.map_eq_some_iff.mp hrun
    simp only [Prod.mk.injEq, decide_eq_true_eq, Option.map_eq_some_iff] at he
    obtain ⟨hq, hi, hph, ⟨p, hp, hr⟩, hsent⟩ := he
    refine ⟨w, hw, hq, hi, (((sent_all_iff hw hq).1 1 hi).1.mpr ⟨?_, ?_⟩), hsent⟩
    · rintro ⟨⟨⟨rest, hph'⟩, -⟩, -⟩
      simp [hph] at hph'
    · rintro ⟨p', hp', hb⟩
      obtain rfl : p = p' := by simpa [hp] using hp'
      exact Pump.not_brokeOff_of_running hr hb
  · have hrun : (answeredThen farewell).map (fun w => (decide w.Quiescent, w.session.active,
        w.session.target?, w.transport.connections[1]?.map (·.readable))) =
      some (true, none, none, some false) := by rfl
    obtain ⟨w, hw, he⟩ := Option.map_eq_some_iff.mp hrun
    simp only [Prod.mk.injEq, decide_eq_true_eq, Option.map_eq_some_iff] at he
    obtain ⟨hq, ha, ht, c, hc, hr⟩ := he
    refine ⟨w, hw, hq, ⟨c, hc, hr⟩, ((sent_all_iff hw hq).2 c hc hr).mpr ⟨?_, ?_⟩⟩
    · rintro ⟨⟨rest, hp⟩, -⟩
      simp [Session.target?, hp] at ht
    · exact fun hst => by simp [Stuck, ha] at hst

/-- Three chunks wait to be replayed, the queue has room for one, and the fallback connection's
stream blocks, although it has something to say; then `moves` follow. -/
def stalledThen (moves : List (Move ScriptedClient)) : Option (World ScriptedClient) :=
  (start { fallbackHost := "fallback", capacity := 1 } { host := "first", port := 80 } {} 8
    [{ answer := .accepted },
      { answer := .accepted, endpoint := { reads := [.ok [9]], writes := .blocks } }]).run?
    ([.event (.message [1]), .session .take, .session .resume, .driver 0 .dial, .driver 0 .connect,
        .driver 0 .write, .driver 0 .write, .event (.message [2]), .session .take, .session .resume,
        .driver 0 .write, .driver 0 .write, .event (.message [3]), .session .take, .session .resume,
        .driver 0 .write, .driver 0 .write,
        .outside (.peer 0 ⟨.accepted, { ends := true }⟩), .driver 0 .read, .pump 0, .session .join,
        .session .resume, .session .resume, .driver 1 .dial, .driver 1 .connect, .driver 1 .write,
        .session .resume, .driver 1 .read, .driver 1 .read] ++ moves)

/-- The remote of the fallback connection ends. -/
def stalledEnd : List (Move ScriptedClient) :=
  [.outside (.peer 1 ⟨.accepted, { writes := .blocks, ends := true }⟩), .driver 1 .read]

/-- What the fallback connection reads does not reach the open client, and its end does not end
the session. -/
theorem stalled_not_sent :
    (∃ w, stalledThen [] = some w ∧ w.Quiescent ∧
      ClientChannel.readyState w.gate.client = .opened ∧ w.session.current? = some 1 ∧
      passed (.received 1) w.history = [[9]] ∧ passed .sent w.history = []) ∧
    ∃ w, stalledThen stalledEnd = some w ∧ w.Quiescent ∧
      (∃ c, w.transport.connections[1]? = some c ∧ c.readable = false) ∧
      w.session.isOver = false := by
  constructor
  · have hrun : (stalledThen []).map (fun w => (decide w.Quiescent,
        ClientChannel.readyState w.gate.client, w.session.current?,
        passed (.received 1) w.history, passed .sent w.history)) =
      some (true, .opened, some 1, [[9]], []) := by rfl
    obtain ⟨w, hw, he⟩ := Option.map_eq_some_iff.mp hrun
    simp only [Prod.mk.injEq, decide_eq_true_eq] at he
    exact ⟨w, hw, he⟩
  · have hrun : (stalledThen stalledEnd).map (fun w => (decide w.Quiescent,
        w.transport.connections[1]?.map (·.readable), w.session.isOver)) =
      some (true, some false, false) := by rfl
    obtain ⟨w, hw, he⟩ := Option.map_eq_some_iff.mp hrun
    simp only [Prod.mk.injEq, decide_eq_true_eq, Option.map_eq_some_iff] at he
    exact ⟨w, hw, he⟩

end World

end Tunnel
