import Tunnel.Proofs.Overlap
import Tunnel.Proofs.Retry
import Tunnel.Proofs.Termination

/-!
# Late dials

Once the close of the client has been requested, a session opens no connection, with one exception:
it asks the client, and not its coordinator, whether the client is open when it learns that the
first connection has ended silently. A client whose close failed, or has no effect yet, is still
open then, and the session goes over to the fallback connection.

## Main definitions

* `World.OpensLate` — a connection is opened after the request.
* `World.RetriesLate` — the session gives up its first connection after the request.

## Main statements

* `World.opensLate_iff` — exactly when a session opens a connection after the request.
-/

namespace Tunnel

/-- Only a pump that is not over asks for the close of the client. -/
theorem Line.Own.pump_of_asks {i : Nat} {l l' : Line} {h : List Happening}
    (o : l.Own i l' h true) :
    ∃ p, l.pump = some p ∧ ∀ outcome, p.phase ≠ .ended outcome := by
  generalize ha : true = asks at o
  cases o with
  | drive | finish | send | crash => cases ha
  | fail hp hr | failRead hp hr => exact ⟨_, hp, by simp [hr]⟩
  | settle hp hs => exact ⟨_, hp, by simp [hs]⟩

namespace Relay

variable {r r' : Relay}

/-- A session that is over opens nothing any more. -/
theorem Step.over (s : r.Step r') (ho : r.session.isOver = true) :
    r'.session.phase = r.session.phase ∧ Tunnel.opened r'.flow = Tunnel.opened r.flow := by
  cases s with
  | beside _ o => simp [o.opened]
  | idle | abort => exact ⟨rfl, rfl⟩
  | abandon _ hn => simp [hn] at ho
  | _ hp => simp [Session.isOver, hp] at ho

/-- A connection is opened for the first chunk, or after the first connection. -/
theorem Step.opened_cases (s : r.Step r') (h : r.Shape) :
    Tunnel.opened r'.flow = Tunnel.opened r.flow ∨
    r.connections = [] ∧ r.session.clientOpen = true ∧ r.session.isOver = false ∨
    r.session.phase = .leavingFirst := by
  cases s with
  | beside _ o => simp [o.opened]
  | takeFirst hp ho hw _ =>
    have hn := (h.stands.of_awaiting hp hw).1
    exact .inr (.inl ⟨List.length_eq_zero_iff.mp hn, ho, by simp [Session.isOver, hp]⟩)
  | openFallback hp _ _ => exact .inr (.inr hp)
  | _ => simp [Happening.opened?]

/-- While the first connection is left, nobody asks for the close of the client. -/
theorem Step.leaving_cases (s : r.Step r') (h : r.Sound)
    (hp : r'.session.phase = .leavingFirst) : r'.requested = r.requested ∧
      (r.session.phase = .leavingFirst ∨
        r.session.retried = false ∧ r'.session.retried = true) := by
  cases s with
  | @beside i l l' _ asks hl o =>
    have hp : r.session.phase = .leavingFirst := hp
    obtain ⟨-, hm, hret, -⟩ := h.shape.stands.of_leavingFirst hp
    refine ⟨?_, .inl hp⟩
    cases asks with
    | false => simp
    | true =>
      obtain ⟨p, hlp, hn⟩ := o.pump_of_asks
      have hpump : r.pumps[i]? = some p := (line?_eq_some_iff.mp hl).2.trans hlp
      obtain ⟨q, hq, he⟩ := h.messages.retired hret
      have hi := (List.getElem?_eq_some_iff.mp hpump).1
      obtain rfl : i = 0 := by omega
      obtain rfl : q = p := Option.some.inj (hq.symm.trans hpump)
      exact absurd he (hn _)
  | idle | abort => exact ⟨rfl, .inl hp⟩
  | retry _ _ _ _ hn => exact ⟨rfl, .inr ⟨hn, rfl⟩⟩
  | hearEnd hp' => simp [hp'] at hp
  | _ => simp [Session.gone, Session.concluded] at hp

end Relay

namespace World

variable {σ : Type} [ClientChannel σ] {w w' : World σ}

/-- A connection is opened in a run although the close of the client was requested before. -/
def OpensLate (w : World σ) (moves : List (Move σ)) : Prop :=
  ∃ before after v w', moves = before ++ after ∧ w.run? before = some v ∧
    v.gate.requested = true ∧ v.run? after = some w' ∧ opened w'.history ≠ opened v.history

/-- At some move of a run the session learns that the first connection has ended silently, although
the close of the client was requested; but the client is still open. -/
def RetriesLate (w : World σ) (moves : List (Move σ)) : Prop :=
  ∃ before after v, moves = before ++ .session .join :: after ∧ w.run? before = some v ∧
    v.session.pump = some 0 ∧ v.EndedSilently ∧
    ClientChannel.readyState v.gate.client = .opened ∧ v.gate.requested = true

theorem RetriesLate.retries {moves : List (Move σ)} (h : w.RetriesLate moves) :
    w.Retries moves := by
  obtain ⟨before, after, v, hm, hv, hk, he, ho, -⟩ := h
  exact ⟨before, after, v, hm, hv, hk, he, ho⟩

theorem RetriesLate.append {moves : List (Move σ)} (h : w.RetriesLate moves)
    (later : List (Move σ)) : w.RetriesLate (moves ++ later) := by
  obtain ⟨before, after, v, rfl, h⟩ := h
  exact ⟨before, after ++ later, v, by simp, h⟩

theorem opened_isPrefix {moves : List (Move σ)} (h : w.run? moves = some w') :
    opened w.history <+: opened w'.history :=
  (history_isPrefix h).filterMap _

/-- A session that is over stays so, and opens nothing. -/
theorem over_of_moves {moves : List (Move σ)} (h : w.run? moves = some w') (hs : w.relay.Sound)
    (ho : w.session.isOver = true) :
    w'.session.phase = w.session.phase ∧ opened w'.history = opened w.history := by
  have hkeep : ∀ r r' : Relay, r.Sound → r.Step r' →
      r.session.phase = w.session.phase ∧ opened r.flow = opened w.relay.flow →
      r'.session.phase = w.session.phase ∧ opened r'.flow = opened w.relay.flow := by
    rintro r r' - s ⟨hp, hopened⟩
    obtain ⟨hp', hopened'⟩ := s.over (by simpa only [Session.isOver, hp] using ho)
    exact ⟨hp'.trans hp, hopened'.trans hopened⟩
  simpa using (keep_of_moves hkeep h hs ⟨rfl, rfl⟩).2

/-- A session that learns of a silent end while the client is not open ends, and asks for the close
of the client. -/
theorem ended_of_join (hs : w.relay.Sound) (h : w.join? = some w') (hk : w.session.pump = some 0)
    (he : w.EndedSilently) (ho : ClientChannel.readyState w.gate.client ≠ .opened) :
    ∃ report, w'.session.phase = .ended report ∧ report.closeRequested = true := by
  obtain ⟨hp, hr, -, rfl⟩ := he.join hs hk h
  have hclosed : ∀ v : World σ, v.session.phase = .selecting →
      ∃ report, (v.close "remote readable closed").finish.session.phase = .ended report ∧
        report.closeRequested = true := by
    intro v hv
    have hrel := v.relay_close "remote readable closed"
    have hfin := relay_finish (v.close "remote readable closed") hv
    refine ⟨_, congrArg (·.session.phase) hfin, ?_⟩
    simp [Session.report, hrel]
  have hgone : ∀ f, ClientChannel.readyState (w.withSession f).gate.client ≠ .opened := fun _ => ho
  simp only [pumpEnded, session_withSession, hr, Bool.or_self, Bool.false_eq_true, if_false,
    if_neg (hgone _)]
  exact hclosed _ hp

/-- After the request, only a session that leaves its first connection opens another one. -/
theorem leavingFirst_of_opened {m : Move σ} (hs : w.relay.Sound) (h : w.move? m = some w')
    (hr : w.gate.requested = true) (hne : opened w'.history ≠ opened w.history) :
    w.session.phase = .leavingFirst := by
  rcases (step_of_move hs.shape hs.fits h).opened_cases hs.shape with hc | ⟨hc, hopen, hov⟩ | hp
  · rw [opened_relay_flow, opened_relay_flow] at hc
    exact absurd hc hne
  · rcases hs.openings.unopened hc hr with hn | hn
    · exact absurd (hopen.symm.trans hn) (by simp)
    · exact absurd (hov.symm.trans hn) (by simp)
  · exact hp

variable {engine : Engine} {d : Destination} {client : σ} {eventCapacity : Nat}
  {peers : List Peer} {moves : List (Move σ)}

/-- A session that leaves its first connection after the request gave it up after the request. -/
theorem retriesLate_of_leaving
    (h : (start engine d client eventCapacity peers).run? moves = some w)
    (hp : w.session.phase = .leavingFirst) (hr : w.gate.requested = true) :
    (start engine d client eventCapacity peers).RetriesLate moves := by
  obtain ⟨before, m, after, v, v', rfl, hv, hm, -, hn, hp', hr'⟩ := exists_turn
    (P := fun w => w.session.phase = .leavingFirst ∧ w.gate.requested = true) h
    (by simp [start]) ⟨hp, hr⟩
  have hs := sound_of_run hv
  obtain ⟨hreq, hcases⟩ := (step_of_move hs.shape hs.fits hm).leaving_cases hs hp'
  have hreq : v.gate.requested = true := hreq.symm.trans hr'
  obtain ⟨hnret, hret⟩ := hcases.resolve_left fun hp => hn ⟨hp, hreq⟩
  obtain ⟨rfl, ho⟩ := open_of_retried hs hm hnret hret
  obtain ⟨hk, he⟩ := endedSilently_of_retried hs hm hnret hret
  exact ⟨before, after, v, rfl, hv, hk, he, ho, hreq⟩

/-- A connection that is opened after the request is the fallback connection. -/
theorem retriesLate_of_opensLate
    (h : (start engine d client eventCapacity peers).run? moves = some w)
    (hl : (start engine d client eventCapacity peers).OpensLate moves) :
    (start engine d client eventCapacity peers).RetriesLate moves ∧
      (opened w.history).length = 2 := by
  obtain ⟨before, after, v, w', rfl, hv, hreq, ha, hne⟩ := hl
  obtain rfl : w = w' := by
    rw [run?_append, hv, Option.bind_some, ha] at h
    exact Option.some.inj h.symm
  -- The move at which a connection is opened.
  obtain ⟨early, m, late, u, u', rfl, hu, hm, -, heq, hne'⟩ := exists_turn
    (P := fun u => opened u.history ≠ opened v.history) ha (by simp) hne
  rw [not_not] at heq
  have hrun : (start engine d client eventCapacity peers).run? (before ++ early) = some u := by
    rw [run?_append, hv, Option.bind_some, hu]
  have hs := sound_of_run hrun
  have hrequ : u.gate.requested = true := (acts_of_run hu).mono.1 hreq
  have hp := leavingFirst_of_opened hs hm hrequ (heq ▸ hne')
  have hlate := (retriesLate_of_leaving hrun hp hrequ).append (m :: late)
  refine ⟨by simpa using hlate, ?_⟩
  have hone : (opened v.history).length = 1 := by
    rw [← heq, length_opened hrun]
    exact (hs.shape.stands.of_leavingFirst hp).1
  have hgrows := opened_isPrefix ha
  have htwo : (opened w.history).length ≤ 2 := opened_eq h ▸ List.length_take_le' _ _
  have hlt := hgrows.length_le.lt_of_ne fun hl => hne (hgrows.eq_of_length hl).symm
  omega

/-- A session opens a connection after the request exactly if it gives up its first connection after
the request, and then opens the fallback connection; at rest it has done so unless it was told to
stop. If it learns of the first connection's silent end after the request while the client is not
open, it ends and opens nothing. -/
theorem opensLate_iff (h : (start engine d client eventCapacity peers).run? moves = some w) :
    ((start engine d client eventCapacity peers).OpensLate moves ↔
      (start engine d client eventCapacity peers).RetriesLate moves ∧
        (opened w.history).length = 2) ∧
    (w.Quiescent → w.session.phase ≠ .aborted →
      ((start engine d client eventCapacity peers).OpensLate moves ↔
        (start engine d client eventCapacity peers).RetriesLate moves)) ∧
    ∀ before after v, moves = before ++ .session .join :: after →
      (start engine d client eventCapacity peers).run? before = some v →
      v.session.pump = some 0 → v.EndedSilently → v.gate.requested = true →
      ClientChannel.readyState v.gate.client ≠ .opened →
      ∃ report, w.session.phase = .ended report ∧ report.closeRequested = true ∧
        opened w.history = opened v.history := by
  have hs := sound_of_run h
  have hiff : (start engine d client eventCapacity peers).OpensLate moves ↔
      (start engine d client eventCapacity peers).RetriesLate moves ∧
        (opened w.history).length = 2 := by
    refine ⟨retriesLate_of_opensLate h, ?_⟩
    rintro ⟨⟨before, after, v, rfl, hv, hk, he, -, hreq⟩, htwo⟩
    rw [run?_append, hv, Option.bind_some] at h
    refine ⟨before, _, v, w, rfl, hv, hreq, h, fun heq => ?_⟩
    obtain ⟨v', hm, -⟩ := Option.bind_eq_some_iff.mp h
    obtain ⟨-, -, hone, -⟩ := he.join (sound_of_run hv) hk (join_of_move hm)
    rw [heq, length_opened hv, hone] at htwo
    exact absurd htwo (by decide)
  refine ⟨hiff, fun hq ha => ⟨fun hl => (hiff.mp hl).1, fun hl => hiff.mpr ⟨hl, ?_⟩⟩, ?_⟩
  · rw [length_opened h]
    have hret := hs.openings.retried (retried_of_retries h hl.retries)
    exact hret.resolve_right fun hp => hp.elim (hq.phase_ne_leavingFirst hs) ha
  · rintro before after v rfl hv hk he hreq ho
    rw [run?_append, hv, Option.bind_some] at h
    obtain ⟨v', hm, ha⟩ := Option.bind_eq_some_iff.mp h
    have hv := sound_of_run hv
    have hv' := (step_of_move hv.shape hv.fits hm).sound hv
    obtain ⟨report, hp, hc⟩ := ended_of_join hv (join_of_move hm) hk he ho
    obtain ⟨hp', hopened⟩ := over_of_moves ha hv' (by simp [Session.isOver, hp])
    refine ⟨report, hp'.trans hp, hc, hopened.trans (by_contra fun hne => ?_)⟩
    have hleaving := leavingFirst_of_opened hv hm hreq hne
    simp [(he.join hv hk (join_of_move hm)).1] at hleaving

/-- The first connection's stream fails at the first write, and nothing is kept for a replay. -/
def cutOff (client : ScriptedClient) : World ScriptedClient :=
  start { fallbackHost := "fallback", replayLimit := 0 } { host := "first", port := 80 } client 8
    [⟨.accepted, { writes := .fails }⟩, ⟨.accepted, {}⟩]

/-- The write of the second chunk fails, which requests the close of the client. -/
def cutOffMoves : List (Move ScriptedClient) :=
  [.event (.message [1]), .session .take, .session .resume, .driver 0 .dial, .driver 0 .connect,
    .driver 0 .write, .driver 0 .write, .event (.message [2]), .session .take, .session .resume]

/-- The dropped connection's pump finishes. -/
def cutOffEnd : List (Move ScriptedClient) := [.driver 0 .discard, .pump 0]

theorem opensLate_iff_cutOff :
    ∃ w, (cutOff {}).run? (cutOffMoves ++ cutOffEnd ++ [.session .join]) = some w ∧
      w.Quiescent ∧ w.session.phase ≠ .aborted ∧
      ¬(cutOff {}).OpensLate (cutOffMoves ++ cutOffEnd ++ [.session .join]) ∧
      ¬(cutOff {}).RetriesLate (cutOffMoves ++ cutOffEnd ++ [.session .join]) ∧
      ∃ report, w.session.phase = .ended report ∧ report.closeRequested = true ∧
        opened w.history = [{ host := "first", port := 80 }] := by
  have hbefore : ((cutOff {}).run? (cutOffMoves ++ cutOffEnd)).map (fun v =>
      (v.session.pump, v.pumps[0]?.map (·.phase), v.gate.requested,
        ClientChannel.readyState v.gate.client, opened v.history)) =
    some (some 0, some (.ended (.finished false)), true, .closed,
      [{ host := "first", port := 80 }]) := by rfl
  have hrun : ((cutOff {}).run? (cutOffMoves ++ cutOffEnd ++ [.session .join])).map (fun w =>
      (decide w.Quiescent, w.session.isOver, decide (w.session.phase = .aborted),
        (opened w.history).length)) = some (true, true, false, 1) := by rfl
  obtain ⟨v, hv, he⟩ := Option.map_eq_some_iff.mp hbefore
  obtain ⟨w, hw, he'⟩ := Option.map_eq_some_iff.mp hrun
  simp only [Prod.mk.injEq, decide_eq_true_eq, decide_eq_false_iff_not, Option.map_eq_some_iff]
    at he he'
  obtain ⟨hk, ⟨p, hp, hph⟩, hreq, hclosed, hopened⟩ := he
  obtain ⟨hq, -, ha, hone⟩ := he'
  obtain ⟨hiff, hrest, hend⟩ := opensLate_iff hw
  have hlate := mt hiff.mp fun hl => absurd (hone.symm.trans hl.2) (by decide)
  have hsilent := endedSilently_of_finished (sound_of_run hv) hp hph
  obtain ⟨report, hreport, hc, heq⟩ :=
    hend _ [] v rfl hv hk hsilent hreq (by simp [hclosed])
  exact ⟨w, hw, hq, ha, hlate, mt (hrest hq ha).mpr hlate, report, hreport, hc, heq.trans hopened⟩

/-- A client whose every close fails. -/
def obstinate : ScriptedClient := { closeError := some (.closeFailed "busy") }

/-- The session goes over to the fallback connection. -/
def goesOver : List (Move ScriptedClient) :=
  [.session .join, .session .resume, .session .resume, .driver 1 .dial, .driver 1 .connect]

/-- A write fails for good, the close of the client fails too, and the session dials again. -/
theorem obstinate_opensLate :
    (cutOff obstinate).OpensLate (cutOffMoves ++ (cutOffEnd ++ goesOver)) ∧
    ∃ w, (cutOff obstinate).run? (cutOffMoves ++ (cutOffEnd ++ goesOver)) = some w ∧
      w.Quiescent ∧
      opened w.history = [{ host := "first", port := 80 }, { host := "fallback", port := 80 }] := by
  have hbefore : ((cutOff obstinate).run? cutOffMoves).map (fun v =>
      (v.gate.requested, opened v.history)) = some (true, [{ host := "first", port := 80 }]) := by
    rfl
  have hrun : ((cutOff obstinate).run? (cutOffMoves ++ (cutOffEnd ++ goesOver))).map (fun w =>
      (decide w.Quiescent, opened w.history)) = some (true,
        [{ host := "first", port := 80 }, { host := "fallback", port := 80 }]) := by rfl
  obtain ⟨v, hv, he⟩ := Option.map_eq_some_iff.mp hbefore
  obtain ⟨w, hw, he'⟩ := Option.map_eq_some_iff.mp hrun
  simp only [Prod.mk.injEq, decide_eq_true_eq] at he he'
  have ha : v.run? (cutOffEnd ++ goesOver) = some w := by
    rwa [run?_append, hv, Option.bind_some] at hw
  exact ⟨⟨_, _, v, w, rfl, hv, he.1, ha, by simp [he.2, he'.2]⟩, w, hw, he'⟩

end World

end Tunnel
