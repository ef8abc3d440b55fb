import Tunnel.Client.Scripted
import Tunnel.Proofs.Quiescence

/-!
# Lost chunks

A chunk whose write fails is kept if the session can still go over to the fallback connection.
The session decides this before it writes, and does not look back: if the first connection hands
out a chunk afterwards, it goes on without the kept chunk. Likewise it goes on after a failed
write of the replay, without the rest of it. Nothing else is lost unnoticed.

## Main definitions

* `World.Accounted` — every chunk is written, waits to be written or is kept for a retry.

## Main statements

* `World.accounted_iff` — exactly when this holds at rest, in a session that goes on.
-/

namespace Tunnel

namespace World

variable {σ : Type}

/-- Every chunk that the session has taken is accounted for: it was written to the session's
connection, waits to be written there, or was dropped by a replay buffer that was too small; or it
is kept by a session that can still retry. -/
def Accounted (w : World σ) : Prop :=
  (∃ i, w.session.current? = some i ∧
    passed (.written i) w.history ++ w.session.inHand =
      owed w.engine.replayLimit i w.history) ∨
  w.session.retried = false ∧ passed (.handedOut 0) w.history = [] ∧
    w.session.replay.chunks = passed .taken w.history

variable [ClientChannel σ] {w : World σ}

/-- Where a session at rest is that goes on. -/
theorem Quiescent.standing (hq : w.Quiescent) (hs : w.relay.Sound)
    (ho : w.session.isOver = false) (hr : w.gate.requested = false) :
    w.session.retried = false ∧ w.relay.connections.length = 0 ∨
    ∃ i, w.session.current? = some i ∧ w.relay.connections.length = i + 1 ∧
      i = if w.session.retried then 1 else 0 := by
  have hlost : w.session.active = none → w.relay.connections.length = 0 := by
    intro ha
    by_contra hn
    have := hs.shape.lost ho ha (by simpa [List.length_eq_zero_iff] using hn)
    simp [relay, hr] at this
  have hl := hq.phase_ne_leavingFirst hs
  cases hs.shape.stands with
  | waiting hn _ _ _ _ _ hret => exact .inl ⟨hret, hn⟩
  | @relaying i hn _ hi _ hp ha _ =>
    right
    refine ⟨i, ?_, hn, hi⟩
    have ha : w.session.active = some i := by
      rcases ha with ha | ⟨ha, -⟩
      · exact ha
      · have := hlost ha
        omega
    rcases hp with hp | ⟨-, chunk, kept, hp⟩
    all_goals
      have hp : w.session.phase = _ := hp
      simp [Session.current?, Session.target?, hp, ha]
  | leaving _ _ _ _ hp => exact absurd hp hl
  | replaying hn _ hret _ hp =>
    right
    have hret : w.session.retried = true := hret
    have hp : w.session.phase = _ := hp
    exact ⟨1, by simp [Session.current?, Session.target?, hp], hn, by simp [hret]⟩
  | gone hov => simp [ho] at hov

omit [ClientChannel σ] in
theorem accounted_iff_relay : w.Accounted ↔
    (∃ i, w.session.current? = some i ∧
      passed (.written i) w.relay.flow ++ w.session.inHand =
        owed w.engine.replayLimit i w.relay.flow) ∨
    w.session.retried = false ∧ passed (.handedOut 0) w.relay.flow = [] ∧
      w.session.replay.chunks = passed .taken w.relay.flow := by
  simp [Accounted]

/-- After a refused write, what a session that goes on has taken is all kept if it can retry. -/
theorem Quiescent.kept_of_refused (hq : w.Quiescent) (hs : w.relay.Sound) {chunk : Bytes}
    (ho : w.session.isOver = false) (hi : w.session.current? = some 0)
    (hret : w.session.retried = false) (hx : .refused 0 chunk ∈ w.relay.flow)
    (hh : passed (.handedOut 0) w.relay.flow = []) :
    w.session.replay.chunks = passed .taken w.relay.flow := by
  have hhand : w.session.inHand = [] := by
    by_contra hn
    obtain ⟨j, c, hj, hc, hw, -⟩ := hq.blocked hs hn
    obtain rfl : j = 0 := Option.some_inj.mp (hj.symm.trans hi)
    have hn : c.writable = false := (hs.fits.writeSide_of_connection hc).refused chunk hx
    simp [hw] at hn
  have hp := hq.selecting_of_inHand hs ho hhand
  have ha : w.session.active = some 0 := by
    simpa [Session.current?, Session.target?, hp] using hi
  have hfit := hs.books.swallowed chunk hret ha hp hx
  have hk : w.session.replay = _ := hs.books.kept ho (.inl ⟨hret, hh⟩)
  rw [hk, ReplayBuffer.offered_chunks, if_pos hfit]

/-- After a refused write, a session that goes on has to be able to retry. -/
theorem Quiescent.accounted_iff_of_refused (hq : w.Quiescent) (hs : w.relay.Sound)
    (ho : w.session.isOver = false) {i : Nat} {chunk : Bytes} (hi : w.session.current? = some i)
    (hret : i = if w.session.retried then 1 else 0) (hx : .refused i chunk ∈ w.relay.flow) :
    w.Accounted ↔ w.session.retried = false ∧ passed (.handedOut 0) w.relay.flow = [] := by
  rw [accounted_iff_relay]
  constructor
  · rintro (⟨j, hj, he⟩ | ⟨hr, hh, -⟩)
    · obtain rfl : i = j := Option.some_inj.mp (hi.symm.trans hj)
      have := hs.books.refused i chunk hi hx
      rw [relay_session, he] at this
      exact absurd this (lt_irrefl _)
    · exact ⟨hr, hh⟩
  · rintro ⟨hr, hh⟩
    obtain rfl : i = 0 := by simpa [hr] using hret
    exact .inr ⟨hr, hh, hq.kept_of_refused hs ho hi hr hx hh⟩

theorem Quiescent.accounted_iff_refused (hq : w.Quiescent) (hs : w.relay.Sound)
    (ho : w.session.isOver = false) (hr : w.gate.requested = false) :
    w.Accounted ↔ (∀ chunk, .refused 1 chunk ∉ w.relay.flow) ∧
      ∀ chunk, .refused 0 chunk ∈ w.relay.flow →
        passed (.handedOut 0) w.relay.flow = [] ∨ opensFallback w.relay.flow = true := by
  have habsent : ∀ i, w.relay.connections.length ≤ i → ∀ chunk, .refused i chunk ∉ w.relay.flow :=
    fun i hi _ => (hs.fits.absent i (Relay.line?_eq_none_iff.mpr hi)).not_mem rfl
  have hopens := hs.shape.opens
  rcases hq.standing hs ho hr with ⟨hret, hn⟩ | ⟨i, hi, hn, hret⟩
  · have ht := hs.books.fresh ho hn
    have hh : passed (.handedOut 0) w.relay.flow = [] :=
      (hs.fits.absent 0 (Relay.line?_eq_none_iff.mpr hn.le)).passed_eq_nil (by simp)
    have hk : w.session.replay = _ := hs.books.kept ho (.inl ⟨hret, hh⟩)
    refine iff_of_true (accounted_iff_relay.mpr (.inr ⟨hret, hh, ?_⟩))
      ⟨habsent 1 (by omega), fun chunk hx => absurd hx (habsent 0 (by omega) chunk)⟩
    simp [hk, ht]
  · by_cases hx : ∃ chunk, .refused i chunk ∈ w.relay.flow
    · obtain ⟨chunk, hx⟩ := hx
      rw [hq.accounted_iff_of_refused hs ho hi hret hx]
      cases hr : w.session.retried with
      | false =>
        obtain rfl : i = 0 := by simpa [hr] using hret
        have hf : opensFallback w.relay.flow ≠ true := by
          rw [ne_eq, hopens]
          omega
        constructor
        · exact fun hh => ⟨habsent 1 (by omega), fun _ _ => .inl hh.2⟩
        · exact fun h => ⟨rfl, (h.2 chunk hx).resolve_right hf⟩
      | true =>
        obtain rfl : i = 1 := by simpa [hr] using hret
        simp only [Bool.true_eq_false, false_and, false_iff]
        exact fun h => h.1 chunk hx
    · have hc := hs.books.current i hi (not_exists.mp hx)
      refine iff_of_true (accounted_iff_relay.mpr (.inl ⟨i, hi, hc⟩)) ?_
      cases hr : w.session.retried with
      | false =>
        obtain rfl : i = 0 := by simpa [hr] using hret
        exact ⟨habsent 1 (by omega), fun chunk hx' => absurd ⟨chunk, hx'⟩ hx⟩
      | true =>
        obtain rfl : i = 1 := by simpa [hr] using hret
        exact ⟨not_exists.mp hx, fun _ _ => .inr (hopens.mpr (by omega))⟩

variable {engine : Engine} {d : Destination} {client : σ} {eventCapacity : Nat}
  {peers : List Peer} {moves : List (Move σ)}

/-- At rest, in a session that goes on, every chunk is accounted for unless a write of the replay
was refused, or a chunk of the first connection was handed out although a write was refused and
no fallback connection makes up for it. -/
theorem accounted_iff (h : (start engine d client eventCapacity peers).run? moves = some w)
    (hq : w.Quiescent) (ho : w.session.isOver = false) (hr : w.gate.requested = false) :
    w.Accounted ↔ (∀ chunk, .refused 1 chunk ∉ w.history) ∧
      ∀ chunk, .refused 0 chunk ∈ w.history →
        passed (.handedOut 0) w.history = [] ∨ opensFallback w.history = true := by
  have hmem : ∀ i chunk, .refused i chunk ∈ w.relay.flow ↔ .refused i chunk ∈ w.history :=
    fun _ _ => mem_relay_flow rfl
  simpa [hmem] using hq.accounted_iff_refused (sound_of_run h) ho hr

/-- The stream fails the first write, so that the second chunk is refused and kept; then `moves`
follow. -/
def refusedThen (moves : List (Move ScriptedClient)) : Option (World ScriptedClient) :=
  (start { fallbackHost := "fallback" } { host := "first", port := 80 } {} 8
    [{ answer := .accepted, endpoint := { writes := .fails } }]).run?
    ([.event (.message [1]), .session .take, .session .resume, .driver 0 .dial,
        .driver 0 .connect, .driver 0 .write, .driver 0 .write, .event (.message [2]),
        .session .take, .session .resume] ++ moves)

theorem accounted_iff_kept : ∃ w, refusedThen [] = some w ∧ w.Quiescent ∧ w.Accounted := by
  have hrun : (refusedThen []).map (fun w => (decide w.Quiescent, w.session.isOver,
      w.gate.requested, w.history.any (fun e => match e with | .refused 1 _ => true | _ => false),
      passed (.handedOut 0) w.history)) = some (true, false, false, false, []) := by rfl
  obtain ⟨w, hw, he⟩ := Option.map_eq_some_iff.mp hrun
  simp only [Prod.mk.injEq, decide_eq_true_eq, List.any_eq_false] at he
  obtain ⟨hq, ho, hr, hn, hh⟩ := he
  refine ⟨w, hw, hq, (accounted_iff hw hq ho hr).mpr ⟨fun chunk hx => ?_, fun _ _ => .inl hh⟩⟩
  exact hn _ hx rfl

/-- The remote, whose stream fails all writes, sends a byte that goes to the client. -/
def lateByte : List (Move ScriptedClient) :=
  [.outside (.peer 0 ⟨.accepted, { reads := [.ok [3]], writes := .fails }⟩),
    .driver 0 .read, .driver 0 .read, .pump 0]

/-- A late byte of the remote makes the retry impossible, and the kept chunk is lost: the session
neither writes it anywhere nor ends. -/
theorem late_byte_loses_chunk : ∃ w, refusedThen lateByte = some w ∧
    w.Quiescent ∧ w.session.isOver = false ∧ w.gate.requested = false ∧ ¬w.Accounted := by
  have hrun : (refusedThen lateByte).map (fun w => (decide w.Quiescent,
      w.session.isOver, w.gate.requested, w.session.current?, w.session.inHand,
      passed (.written 0) w.history, passed .taken w.history, passed (.handedOut 0) w.history)) =
    some (true, false, false, some 0, [], [[1]], [[1], [2]], [[3]]) := by rfl
  obtain ⟨w, hw, he⟩ := Option.map_eq_some_iff.mp hrun
  simp only [Prod.mk.injEq, decide_eq_true_eq] at he
  obtain ⟨hq, ho, hr, hc, hi, hwr, ht, hh⟩ := he
  refine ⟨w, hw, hq, ho, hr, ?_⟩
  rintro (⟨i, hi', he⟩ | ⟨-, he, -⟩)
  · obtain rfl : 0 = i := by simpa [hc] using hi'
    simp [hwr, hi, ht] at he
  · simp [hh] at he

end World

end Tunnel
