import Tunnel.Client.Scripted
import Tunnel.Proofs.Quiescence

/-!
# The retry

A session opens a connection to its destination, and perhaps one more through the fallback host:
when the first one ends without a word while the client is open.

## Main definitions

* `World.EndedSilently` — the first connection has ended, and nothing came from it.
* `World.Retries` — the session gives up the first connection at some move of a run.

## Main statements

* `World.retry_iff` — which connections are opened, and when.
-/

namespace Tunnel

/-- A session that waits for its first pump has not retried. -/
theorem Session.Stands.not_retried {s : Session} {n m : Nat} (h : s.Stands n m)
    (hp : s.phase = .selecting) (hk : s.pump = some 0) : s.retried = false := by
  have h0 := (h.of_pump (by simp [isOver, hp]) hk).2.2
  cases hr : s.retried with
  | false => rfl
  | true => simp [hr] at h0

namespace Relay

variable {r r' : Relay}

/-- A session is not made to go back to its first connection. -/
theorem Step.retried_mono (s : r.Step r') (h : r.session.retried = true) :
    r'.session.retried = true := by
  cases s with
  | retry => rfl
  | _ => simpa [Session.gone, Session.concluded] using h

/-- What a session waits for that gives up its first connection. -/
theorem Step.retried_cases (s : r.Step r') (h : r'.session.retried = true) :
    r.session.retried = true ∨ ∃ k p, r.session.phase = .selecting ∧ r.session.pump = some k ∧
      r.pumps[k]? = some p ∧ p.phase = .ended (.finished false) := by
  cases s with
  | retry hp hk hj he _ => exact .inr ⟨_, _, hp, hk, hj, he⟩
  | _ =>
    left
    simpa [Session.gone, Session.concluded] using h

end Relay

namespace World

variable {σ : Type} {w w' : World σ}

/-- Nothing can be read from the first connection any more, its reader has handed out neither a
chunk nor a read error, and its pump has not crashed. -/
structure EndedSilently (w : World σ) : Prop where
  unreadable : ∃ c, w.transport.connections[0]? = some c ∧ c.readable = false
  silent : passed (.handedOut 0) w.history = []
  pump : ∃ p, w.pumps[0]? = some p ∧ (∀ reason, p.phase ≠ .crashed reason) ∧
    ∀ b err, ¬p.Left (.failed b (.remote err))

theorem endedSilently_of_finished {p : Pump} (hs : w.relay.Sound) (hp : w.pumps[0]? = some p)
    (he : p.phase = .ended (.finished false)) : w.EndedSilently := by
  obtain ⟨c, hc⟩ := hs.shape.connection_of_pump hp
  have hr := hs.fits.readSide_of_pump hc hp
  have hn := hs.fits.handedOut_of_ended hs.shape hp he
  rw [passed_relay_flow] at hn
  refine ⟨⟨c, hc, (hr.finished p false rfl (.inr he)).2.1⟩, hn, p, hp, ?_, ?_⟩
  · simp [he]
  · simp [Pump.Left, he]

/-- A pump that leaves a silent connection behind has finished. -/
theorem EndedSilently.outcome (h : w.EndedSilently) (hs : w.relay.Sound) {p : Pump}
    {outcome : PumpOutcome} (hp : w.pumps[0]? = some p) (ho : p.outcome? 0 = some outcome) :
    outcome = .finished false := by
  obtain ⟨-, hsilent, q, hq, hcrash, herror⟩ := h
  obtain rfl : p = q := Option.some_inj.mp (hp.symm.trans hq)
  obtain ⟨c, hc⟩ := hs.shape.connection_of_pump hp
  have hr := hs.fits.readSide_of_pump hc hp
  have hn : passed (.handedOut 0) w.relay.flow = [] := passed_relay_flow.trans hsilent
  cases hph : p.phase with
  | running | settling => simp [Pump.outcome?, hph] at ho
  | crashed reason => exact absurd hph (hcrash reason)
  | ended result =>
    obtain rfl : result = outcome := by simpa [Pump.outcome?, hph] using ho
    cases result with
    | failed b e =>
      have hd := (hs.fits.parting_of_pump hc hp).delivered p b e rfl (.inr hph) fun err he =>
        herror b err (.inr (he ▸ hph))
      exact absurd hn hd
    | finished b =>
      have hd := hr.connection.delivered
      rw [← hr.delivered p rfl, ← (hr.finished p b rfl (.inr hph)).1] at hd
      simp [hn] at hd
      rw [hd]

/-! ### Who gives up the first connection -/

@[simp] theorem retried_release (w : World σ) (last : Session.Phase) :
    (w.release last).session.retried = w.session.retried := by
  have hs : (w.release last).session = w.session.gone last :=
    congrArg Relay.session (w.relay_release last)
  rw [hs]
  rfl

@[simp] theorem retried_conclude (w : World σ) :
    w.conclude.session.retried = w.session.retried := by
  simp [conclude]

@[simp] theorem retried_finish (w : World σ) : w.finish.session.retried = w.session.retried := by
  simp [finish]

variable [ClientChannel σ]

/-- At some move of a run the session learns of the end of the first connection's pump; by then the
connection has ended silently, and the client is open. -/
def Retries (w : World σ) (moves : List (Move σ)) : Prop :=
  ∃ before after v, moves = before ++ .session .join :: after ∧ w.run? before = some v ∧
    v.session.pump = some 0 ∧ v.EndedSilently ∧ ClientChannel.readyState v.gate.client = .opened

@[simp] theorem retried_failForwarding (w : World σ) (e : SessionError) :
    (w.failForwarding e).session.retried = w.session.retried := by
  simp [failForwarding]

@[simp] theorem retried_beginWrite (w : World σ) (chunk : Bytes) :
    (w.beginWrite chunk).session.retried = w.session.retried := by
  unfold beginWrite
  split
  · simp
  · split <;> rfl

theorem retried_forward (w : World σ) (chunk : Bytes) :
    (w.forward chunk).session.retried = w.session.retried := by
  unfold forward
  split
  · dsimp only
    split
    · simp
    · rename_i i v ho
      obtain ⟨r, -, he⟩ := Option.map_eq_some_iff.mp ho
      cases he
      simp only [retried_beginWrite, session_withSession, session_startPump, session_enter]
      rfl
  · simp

theorem retried_of_take (h : w.take? = some w') : w'.session.retried = w.session.retried := by
  unfold take? at h
  split at h
  · rcases hp : w.chunks.poll w.gate with ⟨item, chunks, gate, happened⟩
    rw [hp] at h
    cases item <;> cases h
    · exact retried_forward _ _
    all_goals rfl
  · cases h

/-- The end of a pump makes a session give up its first connection only while the client is
open. -/
theorem open_of_pumpEnded {outcome : PumpOutcome} (hn : w.session.retried = false)
    (hr : (w.pumpEnded outcome).session.retried = true) :
    ClientChannel.readyState w.gate.client = .opened := by
  by_contra ho
  have hend : (w.pumpEnded outcome).session.retried = w.session.retried := by
    unfold pumpEnded
    cases outcome with
    | failed delivered e => simp
    | finished delivered =>
      dsimp only
      split
      · exact retried_finish _
      · split
        · rename_i hopen
          exact absurd hopen ho
        · exact retried_finish _
  simp [hend, hn] at hr

theorem open_of_join (h : w.join? = some w') (hn : w.session.retried = false)
    (hr : w'.session.retried = true) : ClientChannel.readyState w.gate.client = .opened := by
  unfold join? at h
  split at h
  · obtain ⟨k, -, h⟩ := Option.bind_eq_some_iff.mp h
    obtain ⟨outcome, -, rfl⟩ := Option.map_eq_some_iff.mp h
    exact open_of_pumpEnded hn hr
  · cases h

/-- Of the steps of a session that waits for a pump, only one gives up the first connection. -/
theorem open_of_sessionStep {branch : Branch} {k : Nat} (hp : w.session.phase = .selecting)
    (hk : w.session.pump = some k) (h : w.sessionStep? branch = some w')
    (hn : w.session.retried = false) (hr : w'.session.retried = true) :
    branch = .join ∧ ClientChannel.readyState w.gate.client = .opened := by
  unfold sessionStep? at h
  split at h
  · rename_i ha
    cases branch with
    | abandon =>
      change w.abandon? = some w' at h
      simp only [abandon?, hp, if_pos ha] at h
      cases h
      simp [hn] at hr
    | take | join | resume | finish => cases h
  · cases branch with
    | take =>
      rw [retried_of_take h] at hr
      simp [hn] at hr
    | join => exact ⟨rfl, open_of_join h hn hr⟩
    | resume =>
      change w.resume? = some w' at h
      simp [resume?, hp] at h
    | finish =>
      change w.finish? = some w' at h
      simp [finish?, hk] at h
    | abandon => cases h

/-- Only the end of a pump makes a session give up its first connection, and only while the client
is open. -/
theorem open_of_retried {m : Move σ} (hs : w.relay.Sound) (h : w.move? m = some w')
    (hn : w.session.retried = false) (hr : w'.session.retried = true) :
    m = .session .join ∧ ClientChannel.readyState w.gate.client = .opened := by
  obtain ⟨k, p, hp, hk, -, -⟩ :=
    ((step_of_move hs.shape hs.fits h).retried_cases hr).resolve_left (by simp [hn])
  cases m with
  | outside o =>
    cases h
    cases o <;> exact absurd (hn.symm.trans hr) (by simp)
  | task t =>
    cases t with
    | beside task =>
      obtain ⟨q, -, rfl⟩ := Option.map_eq_some_iff.mp h
      exact absurd (hn.symm.trans hr) (by simp)
    | session branch =>
      obtain ⟨rfl, ho⟩ := open_of_sessionStep hp hk h hn hr
      exact ⟨rfl, ho⟩

/-- By the time a session gives up the first connection, that one has ended silently. -/
theorem endedSilently_of_retried {m : Move σ} (hs : w.relay.Sound) (h : w.move? m = some w')
    (hn : w.session.retried = false) (hr : w'.session.retried = true) :
    w.session.pump = some 0 ∧ w.EndedSilently := by
  obtain ⟨k, p, hp, hk, hj, he⟩ :=
    ((step_of_move hs.shape hs.fits h).retried_cases hr).resolve_left (by simp [hn])
  have hov : w.relay.session.isOver = false := by simp only [Session.isOver, hp]
  obtain rfl : k = 0 := (hs.shape.stands.of_pump hov hk).2.2.trans (if_neg (by simp [hn]))
  exact ⟨hk, endedSilently_of_finished hs hj he⟩

theorem join_of_move (h : w.move? (.session .join) = some w') : w.join? = some w' := by
  change w.sessionStep? .join = some w' at h
  unfold sessionStep? at h
  split at h
  · cases h
  · exact h

/-- A session that learns of a silent end has opened one connection, whose pump has finished
without a chunk. -/
theorem EndedSilently.join (he : w.EndedSilently) (hs : w.relay.Sound)
    (hk : w.session.pump = some 0) (h : w.join? = some w') :
    w.session.phase = .selecting ∧ w.session.retried = false ∧
      w.transport.connections.length = 1 ∧ w' = w.pumpEnded (.finished false) := by
  unfold join? at h
  split at h
  · rename_i hp
    have hn := (hs.shape.stands.of_pump (by simp [Session.isOver, hp]) hk).1
    rw [hk, Option.bind_some] at h
    obtain ⟨outcome, hout, rfl⟩ := Option.map_eq_some_iff.mp h
    obtain ⟨p, hp0, hout⟩ := Option.bind_eq_some_iff.mp hout
    obtain rfl := he.outcome hs hp0 hout
    exact ⟨hp, hs.shape.stands.not_retried hp hk, hn, rfl⟩
  · cases h

/-- A session that learns of a silent end gives up the first connection if the client is open. -/
theorem retried_of_join (hs : w.relay.Sound) (h : w.join? = some w') (hk : w.session.pump = some 0)
    (he : w.EndedSilently) (ho : ClientChannel.readyState w.gate.client = .opened) :
    w'.session.retried = true := by
  obtain ⟨-, hr, -, rfl⟩ := he.join hs hk h
  have hopen : ∀ f, ClientChannel.readyState (w.withSession f).gate.client = .opened := fun _ => ho
  simp [pumpEnded, hr, hopen]

variable {engine : Engine} {d : Destination} {client : σ} {eventCapacity : Nat}
  {peers : List Peer} {moves : List (Move σ)}

/-- What is given up stays given up. -/
theorem retried_of_moves (h : w.run? moves = some w') (hs : w.relay.Sound)
    (hr : w.session.retried = true) : w'.session.retried = true :=
  (keep_of_moves (P := (·.session.retried = true)) (fun _ _ _ s => s.retried_mono) h hs hr).2

theorem retries_of_retried (h : (start engine d client eventCapacity peers).run? moves = some w)
    (hr : w.session.retried = true) : (start engine d client eventCapacity peers).Retries moves := by
  obtain ⟨before, m, after, v, v', rfl, hv, hm, -, hn, hr'⟩ := exists_turn
    (P := fun w => w.session.retried = true) h (by simp [start]) hr
  have hs := sound_of_run hv
  have hn : v.session.retried = false := by simpa using hn
  obtain ⟨rfl, ho⟩ := open_of_retried hs hm hn hr'
  obtain ⟨hk, he⟩ := endedSilently_of_retried hs hm hn hr'
  exact ⟨before, after, v, rfl, hv, hk, he, ho⟩

theorem retried_of_retries (h : (start engine d client eventCapacity peers).run? moves = some w)
    (hr : (start engine d client eventCapacity peers).Retries moves) : w.session.retried = true := by
  obtain ⟨before, after, v, rfl, hv, hk, he, ho⟩ := hr
  have hs := sound_of_run hv
  rw [run?_append, hv, Option.bind_some] at h
  obtain ⟨v', hm, ha⟩ := Option.bind_eq_some_iff.mp h
  have hs' := (step_of_move hs.shape hs.fits hm).sound hs
  have hr' : v'.session.retried = true := retried_of_join hs (join_of_move hm) hk he ho
  exact retried_of_moves ha hs' hr'

theorem opened_eq (h : (start engine d client eventCapacity peers).run? moves = some w) :
    opened w.history = [d, { host := engine.fallbackHost, port := d.port }].take
      w.transport.connections.length := by
  have hopened := (sound_of_run h).openings.opened
  have hd : w.relay.destination = d := destination_of_run h
  have hf : w.relay.fallback = { host := engine.fallbackHost, port := d.port } := by
    rw [Relay.fallback, hd, show w.relay.engine = engine from engine_of_run h]
    rfl
  rwa [opened_relay_flow, hd, hf] at hopened

theorem length_opened (h : (start engine d client eventCapacity peers).run? moves = some w) :
    (opened w.history).length = w.transport.connections.length := by
  have h2 : w.transport.connections.length ≤ 2 := (sound_of_run h).shape.stands.le_two
  rw [opened_eq h, List.length_take]
  exact min_eq_left h2

/-- A session opens no connection before the first chunk, then one to its destination and, at most
once, one through the fallback host, to the same port. It opens the latter only if the first one
ended silently and the client was open when the session learned of it; and then it does, unless
it is told to stop. -/
theorem retry_iff (h : (start engine d client eventCapacity peers).run? moves = some w) :
    opened w.history <+: [d, { host := engine.fallbackHost, port := d.port }] ∧
    (opened w.history ≠ [] → passed .taken w.history ≠ []) ∧
    ((opened w.history).length = 2 → (start engine d client eventCapacity peers).Retries moves) ∧
    ((start engine d client eventCapacity peers).Retries moves → (opened w.history).length = 2 ∨
      w.session.phase = .leavingFirst ∨ w.session.phase = .aborted) ∧
    (w.Quiescent → w.session.phase ≠ .aborted → ((opened w.history).length = 2 ↔
      (start engine d client eventCapacity peers).Retries moves)) := by
  have hs := sound_of_run h
  have hlen := length_opened h
  have hretries : (opened w.history).length = 2 →
      (start engine d client eventCapacity peers).Retries moves := by
    intro h2
    have hn : 2 ≤ w.transport.connections.length := by rw [← hlen, h2]
    exact retries_of_retried h (hs.shape.stands.retried_of_two hn)
  have hthen : (start engine d client eventCapacity peers).Retries moves →
      (opened w.history).length = 2 ∨
        w.session.phase = .leavingFirst ∨ w.session.phase = .aborted := by
    intro hr
    rw [hlen]
    exact hs.openings.retried (retried_of_retries h hr)
  refine ⟨opened_eq h ▸ List.take_prefix _ _, fun hn => ?_, hretries, hthen,
    fun hq ha => ⟨hretries, fun hr => ?_⟩⟩
  · rw [← List.length_pos_iff, hlen, List.length_pos_iff] at hn
    have ht := hs.openings.taken hn
    rwa [passed_relay_flow] at ht
  · exact (hthen hr).resolve_right fun hp => hp.elim (hq.phase_ne_leavingFirst hs) ha

/-- The first dial is refused, and the client's chunk goes to the fallback connection. -/
def refusedMoves : List (Move ScriptedClient) :=
  [.event (.message [1]), .session .take, .session .resume, .driver 0 .dial, .driver 0 .connect,
    .pump 0, .session .join, .session .resume, .session .resume, .session .resume,
    .driver 1 .dial, .driver 1 .connect, .driver 1 .write, .driver 1 .write]

def refused : World ScriptedClient :=
  start { fallbackHost := "fallback" } { host := "first", port := 80 } {} 8
    [{ answer := .refused { kind := .connectionRefused } }, { answer := .accepted }]

theorem retry_iff_refused : ∃ w, refused.run? refusedMoves = some w ∧
    w.Quiescent ∧ w.session.phase ≠ .aborted ∧
    opened w.history = [{ host := "first", port := 80 }, { host := "fallback", port := 80 }] ∧
    refused.Retries refusedMoves := by
  have hrun : (refused.run? refusedMoves).map (fun w => (decide w.Quiescent, w.session.phase,
      opened w.history)) = some (true, .selecting,
        [{ host := "first", port := 80 }, { host := "fallback", port := 80 }]) := by rfl
  obtain ⟨w, hw, he⟩ := Option.map_eq_some_iff.mp hrun
  simp only [Prod.mk.injEq, decide_eq_true_eq] at he
  obtain ⟨hq, hp, ho⟩ := he
  have ha : w.session.phase ≠ .aborted := by simp [hp]
  have hiff := (retry_iff hw).2.2.2.2 hq ha
  exact ⟨w, hw, hq, ha, ho, hiff.mp (by simp [ho])⟩

end World

end Tunnel
