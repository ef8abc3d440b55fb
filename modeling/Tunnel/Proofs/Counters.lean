import Tunnel.Client.Scripted
import Tunnel.Proofs.Relay.Accounts
import Tunnel.Proofs.Relay.Reports
import Tunnel.Proofs.Retry

/-!
# What a report counts

A report counts the messages that connections have taken and the chunks that were replayed. These
numbers can be read off what happened: of each message the answer to its write, and of the replay
what the fallback connection has taken ahead of newer messages.

## Main statements

* `World.counters_exact` — what the counters of a report are.
-/

namespace Tunnel

/-- At the end of a session all messages were passed on or kept, but perhaps for the last one. -/
theorem Relay.InTurn.ended {r : Relay} {report : Report} (a : r.InTurn)
    (hp : r.session.phase = .ended report) :
    r.cancelled = false ∧ (∀ t ∈ turns r.flow, t.Settled r.engine.replayLimit) ∨
    r.cancelled = true ∧ ∃ t ts, turns r.flow = t :: ts ∧ t.refused = true ∧
      t.keepable r.engine.replayLimit = false ∧ ∀ u ∈ ts, u.Settled r.engine.replayLimit := by
  cases a with
  | waiting hs _ hc => exact .inl ⟨hc, hs⟩
  | writing _ _ _ hp' => simp [hp] at hp'
  | lost hts hs hr hk _ _ hc => exact .inr ⟨hc, _, _, hts, hr, hk, hs⟩
  | stopped hg => simp [hp] at hg

namespace World

variable {σ : Type} {w : World σ} {limit : Nat} {report : Report}

theorem turns_relay_flow : turns w.relay.flow = (turns w.history).map Turn.bare :=
  turns_filter_concernsData

theorem replayPart_relay_flow :
    replayPart w.relay.flow = (replayPart w.history).filter Happening.concernsData :=
  replayPart_filter_concernsData

theorem taken_beforeFallback_relay_flow :
    passed .taken (beforeFallback w.relay.flow) = passed .taken (beforeFallback w.history) := by
  rw [show w.relay.flow = w.history.filter Happening.concernsData from rfl,
    fallback_filter_concernsData.2.1, passed_filter_concernsData]

theorem turns_of_ended (a : w.relay.InTurn) (hp : w.session.phase = .ended report)
    (hl : w.engine.replayLimit = limit) :
    w.chunks.cancelled = false ∧ (∀ t ∈ turns w.history, t.Settled limit) ∨
    w.chunks.cancelled = true ∧ ∃ t ts, turns w.history = t :: ts ∧ t.refused = true ∧
      t.keepable limit = false ∧ ∀ u ∈ ts, u.Settled limit := by
  have hl : w.relay.engine.replayLimit = limit := hl
  have ha := a.ended hp
  rw [turns_relay_flow, hl] at ha
  refine ha.imp (And.imp_right fun hs t ht => ?_) (And.imp_right ?_)
  · exact Turn.settled_bare.mp (hs _ (List.mem_map_of_mem ht))
  · rintro ⟨u, us, hts, hr, hk, hs⟩
    obtain ⟨t, ts, hturns, rfl, rfl⟩ := List.map_eq_cons_iff.mp hts
    refine ⟨t, ts, hturns, by simpa using hr, by simpa using hk, fun u hu => ?_⟩
    exact Turn.settled_bare.mp (hs _ (List.mem_map_of_mem hu))

variable [ClientChannel σ] {engine : Engine} {d : Destination} {client : σ} {eventCapacity : Nat}
  {peers : List Peer} {moves : List (Move σ)}

/-- A report has the session's own counters, which agree with what happened. -/
theorem told_of_run (h : (start engine d client eventCapacity peers).run? moves = some w)
    (hp : w.session.phase = .ended report) :
    report = w.session.report d report.closeRequested ∧
    w.session.chunksToRemote = (turns w.history).countP Turn.accepted ∧
    w.session.replayedChunks = (passed (.written 1) (replayPart w.history)).length := by
  have ha := accounts_of_run h
  have hd : w.relay.destination = d := destination_of_run h
  refine ⟨hd ▸ (reports_of_run h).told report hp, ?_, ?_⟩
  · have hc := ha.accepted
    rw [turns_relay_flow, List.countP_map] at hc
    exact hc.trans (List.countP_congr fun t _ => by simp)
  · have hc := ha.replays.counted
    rwa [replayPart_relay_flow, passed_filter_concernsData] at hc

/-- What the fallback connection has taken of the replay, with what is missing of it. -/
theorem replay_of_ended (h : (start engine d client eventCapacity peers).run? moves = some w)
    (hp : w.session.phase = .ended report) (ho : opensFallback w.history = true) :
    ∃ missing, passed (.written 1) (replayPart w.history) ++ missing =
      (ReplayBuffer.offered engine.replayLimit
        (passed .taken (beforeFallback w.history))).chunks ∧
      (missing = [] ∨ ∃ chunk, .refused 1 chunk ∈ replayPart w.history) := by
  have ha := accounts_of_run h
  have he : w.relay.engine = engine := engine_of_run h
  have hp : w.relay.session.phase = .ended report := hp
  obtain ⟨missing, hm, hcase⟩ := ha.replays.whole (opensFallback_relay_flow.trans ho)
  rw [replayPart_relay_flow, passed_filter_concernsData, taken_beforeFallback_relay_flow, he] at hm
  refine ⟨missing, hm, ?_⟩
  rcases hcase with hp' | ⟨-, hn | ⟨chunk, hm⟩ | hp'⟩
  · exact absurd (hp.symm.trans hp') (by simp)
  · exact .inl hn
  · rw [replayPart_relay_flow] at hm
    exact .inr ⟨chunk, (List.mem_filter.mp hm).1⟩
  · exact absurd (hp.symm.trans hp') (by simp)

/-- The second connection is that of the fallback. -/
theorem opensFallback_iff (h : (start engine d client eventCapacity peers).run? moves = some w) :
    opensFallback w.history = true ↔ (opened w.history).length = 2 := by
  have hs := sound_of_run h
  have h2 : w.transport.connections.length ≤ 2 := hs.shape.stands.le_two
  rw [length_opened h, ← opensFallback_relay_flow, hs.shape.opens]
  exact ⟨fun hle => le_antisymm h2 hle, fun he => he.ge⟩

/-- A session that has ended after it gave up its first connection has opened a second one. -/
theorem retried_iff_of_ended (h : (start engine d client eventCapacity peers).run? moves = some w)
    (hp : w.session.phase = .ended report) :
    w.session.retried = true ↔ (opened w.history).length = 2 := by
  have hs := sound_of_run h
  have hp : w.relay.session.phase = .ended report := hp
  rw [length_opened h]
  constructor
  · intro hr
    refine (hs.openings.retried hr).resolve_right ?_
    rintro (he | he) <;> exact absurd (hp.symm.trans he) (by simp)
  · exact fun he => hs.shape.stands.retried_of_two he.ge

/-- What becomes of the messages of a session, and how many there are. -/
theorem messages_of_ended (h : (start engine d client eventCapacity peers).run? moves = some w)
    (hp : w.session.phase = .ended report) :
    (passed .taken w.history).length = (turns w.history).countP Turn.accepted +
      (turns w.history).countP (Turn.kept engine.replayLimit) +
      (if w.chunks.cancelled then 1 else 0) ∧
    ∀ t ∈ turns w.history, t.accepted = true ∨
      t.kept engine.replayLimit = true ∧ opensFallback t.before = false ∨
      t.refused = true ∧ w.chunks.cancelled = true ∧ (turns w.history).head? = some t := by
  have hsettled : ∀ t : Turn, t.Settled engine.replayLimit → t.accepted = true ∨
      t.kept engine.replayLimit = true ∧ opensFallback t.before = false := by
    refine fun t ht => ht.imp_right fun hk => ⟨hk, ?_⟩
    by_contra ho
    simp [Turn.kept, Turn.not_keepable_of_opens (by simpa using ho)] at hk
  rw [← length_turns]
  rcases turns_of_ended (accounts_of_run h).inTurn hp
    (congrArg Engine.replayLimit (engine_of_run h)) with ⟨hc, hs⟩ | ⟨hc, t, ts, hts, hr, hk, hs⟩
  · refine ⟨by simp [hc, countP_accepted_add_kept hs], fun t ht => ?_⟩
    exact (hsettled t (hs t ht)).imp_right .inl
  · rw [hts]
    constructor
    · have ha : ¬t.accepted = true := by simp [Turn.not_accepted_of_refused hr]
      have hk : ¬t.kept engine.replayLimit = true := by simp [Turn.kept, hk]
      rw [List.countP_cons_of_neg ha, List.countP_cons_of_neg hk, countP_accepted_add_kept hs]
      simp [hc]
    · refine List.forall_mem_cons.mpr ⟨.inr (.inr ⟨hr, hc, rfl⟩), fun u hu => ?_⟩
      exact (hsettled u (hs u hu)).imp_right .inl

/-- How much of the replay the fallback connection has taken. -/
theorem replayed_of_ended (h : (start engine d client eventCapacity peers).run? moves = some w)
    (hp : w.session.phase = .ended report) :
    (opensFallback w.history = false ∨
      engine.replayLimit < (passed .taken (beforeFallback w.history)).flatten.length →
      passed (.written 1) (replayPart w.history) = []) ∧
    passed (.written 1) (replayPart w.history) <+: passed .taken (beforeFallback w.history) ∧
    (opensFallback w.history = true →
      (passed .taken (beforeFallback w.history)).flatten.length ≤ engine.replayLimit →
      (∀ chunk, .refused 1 chunk ∉ replayPart w.history) →
      passed (.written 1) (replayPart w.history) = passed .taken (beforeFallback w.history)) := by
  cases ho : opensFallback w.history with
  | false => simp [replayPart_of_not_opens ho]
  | true =>
    obtain ⟨missing, hm, hend⟩ := replay_of_ended h hp ho
    rw [ReplayBuffer.offered_chunks] at hm
    split at hm
    · rename_i hfit
      refine ⟨fun hover => ?_, ⟨missing, hm⟩, fun _ _ hn => ?_⟩
      · exact absurd hfit (Nat.not_le_of_lt (hover.resolve_left (by simp)))
      · obtain rfl := hend.resolve_right fun ⟨chunk, hmem⟩ => hn chunk hmem
        simpa using hm
    · rename_i hover
      have hnone := (List.append_eq_nil_iff.mp hm).1
      exact ⟨fun _ => hnone, hnone ▸ List.nil_prefix, fun _ hfit => absurd hfit hover⟩

/-- A report is of a session that is done, and says whether it had a connection and whether it
opened a second one. Of the messages that the session took it counts those that the connection of
that time has taken; of the others, all were refused and kept for a replay before a second
connection was opened, but for the last one if the client's chunks were cancelled. It counts the
chunks that the second connection has taken ahead of newer messages: none without a second
connection or if too much was taken before, and otherwise, if none of them was refused, as many as
there were messages. -/
theorem counters_exact (h : (start engine d client eventCapacity peers).run? moves = some w)
    (hp : w.session.phase = .ended report) :
    report.stage = .done ∧
    (report.connected = true ↔ opened w.history ≠ []) ∧
    (report.retried = true ↔ (opened w.history).length = 2) ∧
    report.chunksToRemote = (turns w.history).countP Turn.accepted ∧
    (passed .taken w.history).length = report.chunksToRemote +
      (turns w.history).countP (Turn.kept engine.replayLimit) +
      (if w.chunks.cancelled then 1 else 0) ∧
    (∀ t ∈ turns w.history, t.accepted = true ∨
      t.kept engine.replayLimit = true ∧ opensFallback t.before = false ∨
      t.refused = true ∧ w.chunks.cancelled = true ∧ (turns w.history).head? = some t) ∧
    report.replayedChunks = (passed (.written 1) (replayPart w.history)).length ∧
    (report.retried = false ∨
      engine.replayLimit < (passed .taken (beforeFallback w.history)).flatten.length →
      report.replayedChunks = 0) ∧
    report.replayedChunks ≤ (passed .taken (beforeFallback w.history)).length ∧
    (report.retried = true →
      (passed .taken (beforeFallback w.history)).flatten.length ≤ engine.replayLimit →
      (∀ chunk, .refused 1 chunk ∉ replayPart w.history) →
      report.replayedChunks = (passed .taken (beforeFallback w.history)).length) := by
  obtain ⟨hreport, haccepted, hreplayed⟩ := told_of_run h hp
  obtain ⟨hcount, hmessages⟩ := messages_of_ended h hp
  obtain ⟨hnone, hsome, hall⟩ := replayed_of_ended h hp
  have hconnected : w.session.connected = true ↔ w.transport.connections ≠ [] :=
    (reports_of_run h).connected
  have hretried := retried_iff_of_ended h hp
  have hopens := (opensFallback_iff h).trans hretried.symm
  rw [← haccepted] at hcount
  rw [hreport]
  refine ⟨rfl, ?_, hretried, haccepted, hcount, hmessages, hreplayed, ?_, ?_, ?_⟩
  · rw [← List.length_pos_iff, length_opened h, List.length_pos_iff]
    exact hconnected
  · intro hor
    refine hreplayed.trans (List.length_eq_zero_iff.mpr (hnone (hor.imp_left fun hr => ?_)))
    rw [← Bool.not_eq_true, hopens]
    exact fun hr' => Bool.false_ne_true (hr.symm.trans hr')
  · exact hreplayed.trans_le hsome.length_le
  · intro hr hfit hn
    exact hreplayed.trans (congrArg List.length (hall (hopens.mpr hr) hfit hn))

/-- The first stream fails its first write, so that the second message is refused and kept. The
first connection then ends without a chunk, both messages are replayed, and a third one follows. -/
def replayedTwo : Option (World ScriptedClient) :=
  (start { fallbackHost := "fallback" } { host := "first", port := 80 } {} 8
    [{ answer := .accepted, endpoint := { ends := true, writes := .fails } },
      { answer := .accepted, endpoint := { ends := true } }]).run?
    ([.event (.message [1]), .session .take, .session .resume, .driver 0 .dial, .driver 0 .connect,
        .driver 0 .write, .driver 0 .write, .event (.message [2]), .session .take,
        .session .resume, .driver 0 .read, .pump 0, .session .join] ++
      List.replicate 4 (.session .resume) ++
      [.event (.message [3]), .session .take, .session .resume, .driver 1 .dial,
        .driver 1 .connect, .driver 1 .read, .pump 1, .pump 1, .session .join])

/-- What is told of it. -/
def replayedTwoReport : Report where
  destination := { host := "first", port := 80 }
  stage := .done
  connected := true
  retried := true
  replayedChunks := 2
  chunksToRemote := 2
  hasIncomingData := false
  closeRequested := true

theorem counters_exact_replayedTwo : ∃ w, replayedTwo = some w ∧
    w.session.phase = .ended replayedTwoReport ∧ (passed .taken w.history).length = 3 ∧
    (turns w.history).countP Turn.accepted = 2 ∧
    (turns w.history).countP (Turn.kept 65536) = 1 ∧
    (opened w.history).length = 2 ∧ (passed (.written 1) (replayPart w.history)).length = 2 := by
  have hrun : replayedTwo.map (fun w => (w.session.phase, (passed .taken w.history).length,
      w.chunks.cancelled)) = some (.ended replayedTwoReport, 3, false) := by rfl
  obtain ⟨w, hw, he⟩ := Option.map_eq_some_iff.mp hrun
  simp only [Prod.mk.injEq] at he
  obtain ⟨hp, htaken, hcancelled⟩ := he
  obtain ⟨-, -, hretried, haccepted, hcount, -, hreplayed, -⟩ := counters_exact hw hp
  rw [htaken, hcancelled] at hcount
  have hkept : 3 = 2 + (turns w.history).countP (Turn.kept 65536) + 0 := hcount
  exact ⟨w, hw, hp, htaken, haccepted.symm, by omega, hretried.mp rfl, hreplayed.symm⟩

end World

end Tunnel
