import Tunnel.Client.Scripted
import Tunnel.Proofs.Quiescence

/-!
# Blocked writes

A session that waits for room in the queue of its connection waits for nothing else, not even for
the end of its pump. So the end of a pump is handled, unless the session is stuck in a write to
the same connection, whose stream takes no more.

## Main definitions

* `World.Handled` — the session has ended, or has gone over to the fallback connection.
* `World.Stuck` — the session waits in a write to a stream that blocks.

## Main statements

* `World.handled_iff` — exactly when the end of a pump is handled at rest.
-/

namespace Tunnel

namespace World

variable {σ : Type}

/-- The end of pump number `k` is handled: the session has ended and the close of the client was
requested, or it was told to stop; or the pump was that of the first connection, and the fallback
connection is open. -/
def Handled (w : World σ) (k : Nat) : Prop :=
  (∃ report, w.session.phase = .ended report ∧ report.closeRequested = true) ∨
  w.session.phase = .aborted ∨
  k = 0 ∧ opensFallback w.history = true

/-- The session waits in a write to connection number `k`: the queue is full, and so is the write
loop's hand, since the stream blocks. -/
def Stuck (w : World σ) (k : Nat) : Prop :=
  w.session.active = some k ∧ (∃ chunk kept, w.session.phase = .writing chunk kept) ∧
  ∃ c dial reading rest, w.transport.connections[k]? = some c ∧
    c.outbox.length = c.capacity ∧ c.driver = .streaming dial reading (.sending rest) ∧
    (w.transport.endpoint dial).mode = .blocks

variable [ClientChannel σ] {w : World σ} {k : Nat} {p : Pump} {outcome : PumpOutcome}

/-- A session that writes at rest although its pump is gone is stuck. -/
theorem Quiescent.stuck (hq : w.Quiescent) (hs : w.relay.Sound) (hp : w.pumps[k]? = some p)
    (he : p.phase ≠ .running) {chunk : Bytes} {kept : Bool}
    (hph : w.session.phase = .writing chunk kept) (ha : w.session.active = some k) :
    w.Stuck k := by
  obtain ⟨i, c, hi, hc, hw, hfull⟩ := hq.blocked hs (by simp [Session.inHand, hph])
  obtain rfl : k = i := by simpa [Session.current?, Session.target?, hph, ha] using hi
  have hdec : c.decided = true :=
    (hs.fits.readSide_of_pump hc hp).decided p rfl he
  have hpos : 0 < c.capacity := (hs.fits.writeSide_of_connection hc).room.1
  have hn : c.outbox ≠ [] := List.ne_nil_of_length_pos (hfull ▸ hpos)
  obtain ⟨dial, reading, rest, hd, hm⟩ := hq.driver_blocked hc hdec hw (.inr hn)
  exact ⟨ha, ⟨chunk, kept, hph⟩, c, dial, reading, rest, hc, hfull, hd, hm⟩

omit [ClientChannel σ] in
/-- A stuck session neither ends nor goes over to another connection. -/
theorem Stuck.not_handled (h : w.Stuck k) (hs : w.relay.Sound) : ¬w.Handled k := by
  obtain ⟨ha, ⟨chunk, kept, hp⟩, -⟩ := h
  have hn := (hs.shape.stands.of_active (.inr ⟨chunk, kept, hp⟩) ha).1
  have hopens := hs.shape.opens
  rw [opensFallback_relay_flow] at hopens
  rintro (⟨report, hr, -⟩ | hr | ⟨rfl, ho⟩)
  · simp [hp] at hr
  · simp [hp] at hr
  · have hn' := hopens.mp ho
    omega

theorem Quiescent.handled_of_not_stuck (hq : w.Quiescent) (hs : w.relay.Sound)
    (hp : w.pumps[k]? = some p) (he : p.phase = .ended outcome) (hn : ¬w.Stuck k) :
    w.Handled k := by
  have hk : k < w.relay.pumps.length := (List.getElem?_eq_some_iff.mp hp).1
  have hfallback : k + 1 < w.relay.connections.length → w.Handled k := by
    intro hlt
    refine .inr (.inr ⟨?_, ?_⟩)
    · have hb := hs.shape.stands.bounds
      split at hb <;> omega
    · rw [← opensFallback_relay_flow, hs.shape.opens]
      omega
  cases hs.shape.stands with
  | waiting _ hm => omega
  | @relaying i hn' hm _ _ hph _ hpump =>
    by_cases hki : k = i
    · subst hki
      rcases hph with hph | ⟨ha, chunk, kept, hph⟩
      · have := hq.outcome_eq_none hph hpump hp
        simp [Pump.outcome?, he] at this
      · exact absurd (hq.stuck hs hp (by simp [he]) hph ha) hn
    · exact hfallback (by omega)
  | leaving _ _ _ _ hph => exact absurd hph (hq.phase_ne_leavingFirst hs)
  | replaying hn' hm => exact hfallback (by omega)
  | gone hov _ _ _ =>
    have hov : w.session.isOver = true := hov
    cases hph : w.session.phase with
    | selecting | writing | leavingFirst | replaying => simp [Session.isOver, hph] at hov
    | aborted => exact .inr (.inl hph)
    | crashed =>
      have := hs.outcomes.crashed hph
      simp [this] at hk
    | ended report =>
      by_cases hr : report.closeRequested = true
      · exact .inl ⟨report, hph, hr⟩
      · rcases hs.outcomes.reported report hph (by simpa using hr) k p hp with ⟨reason, hc⟩ | hlt
        · simp [he] at hc
        · exact hfallback hlt

variable {engine : Engine} {d : Destination} {client : σ} {eventCapacity : Nat}
  {peers : List Peer} {moves : List (Move σ)}

/-- At rest, the end of a pump is handled exactly if the session is not stuck in a write to the
pump's connection. -/
theorem handled_iff (h : (start engine d client eventCapacity peers).run? moves = some w)
    (hq : w.Quiescent) (hp : w.pumps[k]? = some p) (he : p.phase = .ended outcome) :
    w.Handled k ↔ ¬w.Stuck k := by
  have hs := sound_of_run h
  exact ⟨fun hh hst => hst.not_handled hs hh, hq.handled_of_not_stuck hs hp he⟩

/-- The remote ends, and so does the session. -/
def concluded : Option (World ScriptedClient) :=
  (start { fallbackHost := "fallback" } { host := "first", port := 80 } {} 8
    [{ answer := .accepted, endpoint := { reads := [.ok [9]], ends := true } }]).run?
    ([.event (.message [1]), .session .take, .session .resume, .driver 0 .dial,
        .driver 0 .connect] ++
      List.replicate 3 (.driver 0 .read) ++ [.pump 0, .pump 0, .session .join, .driver 0 .discard])

theorem handled_iff_concluded : ∃ w, concluded = some w ∧ w.Quiescent ∧ w.Handled 0 := by
  have hrun : concluded.map (fun w => (decide w.Quiescent, w.session.active,
      w.pumps[0]?.map (·.phase))) = some (true, none, some (.ended (.finished true))) := by rfl
  obtain ⟨w, hw, he⟩ := Option.map_eq_some_iff.mp hrun
  simp only [Prod.mk.injEq, decide_eq_true_eq, Option.map_eq_some_iff] at he
  obtain ⟨hq, ha, p, hp, hph⟩ := he
  refine ⟨w, hw, hq, (handled_iff hw hq hp hph).mpr fun hs => ?_⟩
  simp [Stuck, ha] at hs

/-- The stream blocks, the queue has room for one chunk, and the third chunk waits; then the
remote ends. -/
def stuck : Option (World ScriptedClient) :=
  (start { fallbackHost := "fallback", capacity := 1 } { host := "first", port := 80 } {} 8
    [⟨.accepted, { reads := [.ok [9]], writes := .blocks }⟩]).run?
    [.event (.message [1]), .session .take, .session .resume, .driver 0 .dial,
      .driver 0 .connect, .driver 0 .read, .driver 0 .read, .pump 0, .driver 0 .write,
      .event (.message [2]), .session .take, .session .resume,
      .event (.message [3]), .session .take,
      .outside (.peer 0 ⟨.accepted, { writes := .blocks, ends := true }⟩),
      .driver 0 .read, .pump 0]

/-- A blocked write keeps the session from learning that its pump has ended. -/
theorem stuck_not_handled : ∃ w, stuck = some w ∧ w.Quiescent ∧ w.session.current? = some 0 ∧
    w.pumps[0]?.map (·.phase) = some (.ended (.finished true)) ∧ ¬w.Handled 0 := by
  have hrun : stuck.map (fun w => (decide w.Quiescent, w.session.current?,
      w.pumps[0]?.map (·.phase), w.session.phase, opensFallback w.history)) =
    some (true, some 0, some (.ended (.finished true)), .writing [3] false, false) := by rfl
  obtain ⟨w, hw, he⟩ := Option.map_eq_some_iff.mp hrun
  simp only [Prod.mk.injEq, decide_eq_true_eq] at he
  obtain ⟨hq, hc, hp, hph, ho⟩ := he
  exact ⟨w, hw, hq, hc, hp, by simp [Handled, hph, ho]⟩

end World

end Tunnel
