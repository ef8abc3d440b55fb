import Tunnel.Proofs.Relay.Run
import Tunnel.Proofs.Turns

/-!
# The accounts of a session

How what a session counts agrees with the turns of its messages and with the replay: a message is
passed on, or kept, or the last one that the session takes.

## Main definitions

* `Relay.InTurn` — how the turns of a relay stand.
* `Relay.Replays` — how far the replay is.
* `Relay.Accounts` — these with what the session counts.

## Main statements

* `Relay.Step.accounts`, `World.accounts_of_run` — a step keeps the accounts, and so does a run.
-/

namespace Tunnel

theorem Line.Own.quiet {i : Nat} {l l' : Line} {h : List Happening} {asks : Bool}
    (o : l.Own i l' h asks) : ∀ e ∈ h, e.takes = false ∧ e.answers = false := by
  obtain ⟨-, ht, hw, hr⟩ := o.flow
  intro e he
  cases e with
  | taken chunk => simpa [ht] using mem_passed (s := .taken).mpr ⟨_, he, rfl⟩
  | written j chunk => simpa [hw] using mem_passed (s := .written j).mpr ⟨_, he, rfl⟩
  | refused j chunk => exact absurd he (hr j chunk)
  | _ => exact ⟨rfl, rfl⟩

namespace Relay

/-- How the turns of a relay stand. -/
inductive InTurn (r : Relay) : Prop
  /-- All messages were passed on or kept. -/
  | waiting : (∀ t ∈ turns r.flow, t.Settled r.engine.replayLimit) →
      (∀ chunk kept, r.session.phase ≠ .writing chunk kept) → r.cancelled = false → InTurn r
  /-- The last one is being written. -/
  | writing {t : Turn} {ts : List Turn} : turns r.flow = t :: ts →
      (∀ u ∈ ts, u.Settled r.engine.replayLimit) → t.answer = none →
      r.session.phase = .writing t.message (t.keepable r.engine.replayLimit) →
      r.session.active = some t.current → r.cancelled = false → InTurn r
  /-- The last one was refused and not kept, so that the client's chunks were cancelled. -/
  | lost {t : Turn} {ts : List Turn} : turns r.flow = t :: ts →
      (∀ u ∈ ts, u.Settled r.engine.replayLimit) → t.refused = true →
      t.keepable r.engine.replayLimit = false →
      (∀ chunk kept, r.session.phase ≠ .writing chunk kept) → r.session.clientOpen = false →
      r.cancelled = true → InTurn r
  | stopped : r.session.phase = .crashed ∨ r.session.phase = .aborted → InTurn r

namespace InTurn

variable {r r' : Relay} {chunk : Bytes} {kept : Bool}

/-- Nothing that the turns depend on changes. -/
theorem congr (a : r.InTurn) (he : r'.engine = r.engine) (ht : turns r'.flow = turns r.flow)
    (hp : r'.session.phase = r.session.phase) (ha : r'.session.active = r.session.active)
    (ho : r.session.clientOpen = false → r'.session.clientOpen = false)
    (hc : r'.cancelled = r.cancelled) : r'.InTurn := by
  cases a with
  | waiting hs hw hn => exact .waiting (by rwa [ht, he]) (by rwa [hp]) (hc.trans hn)
  | writing hts hs hn hw hact hcan =>
    exact .writing (ht.trans hts) (by rwa [he]) hn (by rw [hp, hw, he]) (ha.trans hact)
      (hc.trans hcan)
  | lost hts hs hr hk hw hop hcan =>
    exact .lost (ht.trans hts) (by rwa [he]) hr (by rwa [he]) (by rwa [hp]) (ho hop)
      (hc.trans hcan)
  | stopped hg => exact .stopped (by rwa [hp])

/-- A session that writes no message has an answer for each. -/
theorem answered (a : r.InTurn) (ho : r.session.isOver = false)
    (hw : ∀ chunk kept, r.session.phase ≠ .writing chunk kept) :
    ∀ t ∈ turns r.flow, t.answer ≠ none := by
  cases a with
  | waiting hs => exact fun t ht => (hs t ht).answer
  | writing _ _ _ hp => exact absurd hp (hw _ _)
  | lost hts hs hr =>
    rw [hts]
    simp only [List.forall_mem_cons]
    exact ⟨Turn.answer_of_refused hr, fun t ht => (hs t ht).answer⟩
  | stopped hg => rcases hg with hg | hg <;> simp [Session.isOver, hg] at ho

/-- A session that writes no message is not answered any more. -/
theorem turns_append {e : Happening} (a : r.InTurn) (he : e.takes = false)
    (ho : r.session.isOver = false) (hw : ∀ chunk kept, r.session.phase ≠ .writing chunk kept) :
    turns (r.flow ++ [e]) = turns r.flow :=
  turns_append_of_answered he (a.answered ho hw)

/-- The session goes on without a message. -/
theorem onward (a : r.InTurn) (ho : r.session.isOver = false)
    (hw : ∀ chunk kept, r.session.phase ≠ .writing chunk kept)
    (he : r'.engine = r.engine) (ht : turns r'.flow = turns r.flow)
    (hw' : ∀ chunk kept, r'.session.phase ≠ .writing chunk kept)
    (hc : r'.session.clientOpen = r.session.clientOpen) (hn : r'.cancelled = r.cancelled) :
    r'.InTurn := by
  cases a with
  | waiting hs _ hcan => exact .waiting (by rwa [ht, he]) hw' (hn.trans hcan)
  | writing _ _ _ hp => exact absurd hp (hw _ _)
  | lost hts hs hr hk _ hop hcan =>
    exact .lost (ht.trans hts) (by rwa [he]) hr (by rwa [he]) hw' (hc.trans hop) (hn.trans hcan)
  | stopped hg => rcases hg with hg | hg <;> simp [Session.isOver, hg] at ho

/-- A session that takes messages has passed on or kept all before. -/
theorem settled (a : r.InTurn) (hp : r.session.phase = .selecting)
    (ho : r.session.clientOpen = true) :
    (∀ t ∈ turns r.flow, t.Settled r.engine.replayLimit) ∧ r.cancelled = false := by
  cases a with
  | waiting hs _ hcan => exact ⟨hs, hcan⟩
  | writing _ _ _ hp' => simp [hp] at hp'
  | lost _ _ _ _ _ hop => simp [ho] at hop
  | stopped hg => simp [hp] at hg

/-- A session that writes a message has no answer to it yet, and hears it next. -/
theorem of_writing {i : Nat} (a : r.InTurn) (hp : r.session.phase = .writing chunk kept)
    (ha : r.session.active = some i) :
    ∃ t ts, turns r.flow = t :: ts ∧ (∀ u ∈ ts, u.Settled r.engine.replayLimit) ∧
      t.answer = none ∧ t.message = chunk ∧ t.current = i ∧
      t.keepable r.engine.replayLimit = kept ∧ r.cancelled = false ∧
      ∀ e, e.takes = false → e.answers = true →
        turns (r.flow ++ [e]) = { t with answer := some e } :: ts := by
  cases a with
  | waiting _ hw => exact absurd hp (hw _ _)
  | @writing t ts hts hs hn hw hact hcan =>
    obtain ⟨hm, hk⟩ := Session.Phase.writing.inj (hw.symm.trans hp)
    refine ⟨t, ts, hts, hs, hn, hm, Option.some_inj.mp (hact.symm.trans ha), hk, hcan, ?_⟩
    intro e ht he
    rw [turns_append_of_not_takes ht, hts, List.modifyHead_cons, Turn.hear_of_answers hn he]
  | lost _ _ _ _ hw => exact absurd hp (hw _ _)
  | stopped hg => simp [hp] at hg

/-- The session takes a message for connection number `i`. -/
theorem take {h : List Happening} {s : Session} {i : Nat} {delivered : Bool} (a : r.InTurn)
    (hp : r.session.phase = .selecting) (ho : r.session.clientOpen = true)
    (he : r'.engine = r.engine) (hf : r'.flow = r.flow ++ [.taken chunk] ++ h)
    (hq : ∀ e ∈ h, e.takes = false ∧ e.answers = false)
    (hs : r'.session = s.prepare delivered chunk) (ha : s.active = some i)
    (hi : i = if opensFallback r.flow then 1 else 0) (hr : s.retried = opensFallback r.flow)
    (hd : s.retried = false → (delivered = true ↔ passed (.handedOut 0) r.flow ≠ []))
    (hb : s.retried = false → delivered = false →
      s.replay = .offered r.engine.replayLimit (passed .taken r.flow))
    (hc : r'.cancelled = r.cancelled) : r'.InTurn := by
  obtain ⟨hset, hcan⟩ := a.settled hp ho
  have hts : turns r'.flow = { before := r.flow, message := chunk } :: turns r.flow := by
    rw [hf, turns_append_of_quiet hq, turns_append_taken]
  refine .writing hts (by rwa [he]) rfl ?_ ?_ (hc.trans hcan)
  · -- The session keeps a message exactly when it is keepable.
    rw [hs, Session.prepare_phase, he]
    congr 1
    simp only [Turn.keepable, ← hr]
    cases hret : s.retried with
    | true => simp
    | false =>
      have hd := hd hret
      cases hdel : delivered with
      | true =>
        rw [hdel] at hd
        simp [hd.mp rfl]
      | false =>
        have hn : passed (.handedOut 0) r.flow = [] := by simpa [hdel] using hd
        rw [hb hret hdel, ReplayBuffer.record_offered]
        simp [hn]
  · rw [hs, Session.prepare_active, ha, hi]
    rfl

end InTurn

variable {r r' : Relay}

theorem Step.inTurn (s : r.Step r') (h : r.Shape) (hf : r.Fits) (hb : r.Books) (a : r.InTurn) :
    r'.InTurn := by
  have hst := h.stands
  cases s with
  | beside hl o => exact a.congr rfl (turns_append_of_quiet o.quiet) rfl rfl id rfl
  | idle => exact a
  | abort => exact a.congr rfl rfl rfl rfl id rfl
  | hearEnd => exact a.congr rfl (by simp) rfl rfl (fun _ => rfl) rfl
  | takeFirst hp ho hw _ =>
    obtain ⟨hn, -, -, hr⟩ := hst.of_awaiting hp hw
    have hov : r.session.isOver = false := by simp [Session.isOver, hp]
    have hop : opensFallback r.flow = false := by simp [← Bool.not_eq_true, h.opens, hn]
    have helse : Elsewhere 0 r.flow := hf.absent 0 (line?_eq_none_iff.mpr (by omega))
    have hh : passed (.handedOut 0) r.flow = [] := helse.passed_eq_nil (by simp)
    refine a.take hp ho rfl rfl ?_ rfl rfl ?_ ?_ ?_ ?_ rfl
    · simp [Happening.takes, Happening.answers]
    · simp [hn, hop]
    · simp [hr, hop]
    · simp [hh]
    · exact fun _ _ => hb.kept hov (.inl ⟨hr, hh⟩)
  | @takeNext i chunk hp ho hw ha =>
    obtain ⟨hn, -, hi⟩ := hst.of_active (.inl hp) ha
    have hov : r.session.isOver = false := by simp [Session.isOver, hp]
    have hop : opensFallback r.flow = r.session.retried := by
      rw [Bool.eq_iff_iff, h.opens, hn, hi]
      cases r.session.retried <;> simp
    obtain ⟨c, hc, -⟩ := h.connection_of_current (.inl ha)
    have hd := hf.delivered_iff hc
    have hd : r.session.retried = false →
        (r.delivered i = true ↔ passed (.handedOut 0) r.flow ≠ []) := by
      intro hr
      obtain rfl : i = 0 := by simp [hi, hr]
      exact hd
    refine a.take hp ho rfl (List.append_nil _).symm (by simp) rfl ha ?_ hop.symm hd ?_ rfl
    · rw [hi, hop]
    · intro hr hdel
      exact hb.kept hov (.inl ⟨hr, by simpa [hdel] using hd hr⟩)
  | crash => exact .stopped (.inl rfl)
  | abandon => exact .stopped (.inr rfl)
  | written hp ha =>
    obtain ⟨t, ts, -, hs, -, rfl, rfl, -, hcan, hnext⟩ := a.of_writing hp ha
    refine .waiting ?_ (by simp) hcan
    rw [withSession_flow, write_flow, hnext _ rfl rfl]
    exact List.forall_mem_cons.mpr ⟨.inl Turn.accepted_written, hs⟩
  | writeKept hp ha =>
    obtain ⟨t, ts, -, hs, -, rfl, rfl, hk, hcan, hnext⟩ := a.of_writing hp ha
    refine .waiting ?_ (by simp) hcan
    rw [withSession_flow, after_flow, hnext _ rfl rfl]
    exact List.forall_mem_cons.mpr ⟨.inr (Bool.and_eq_true_iff.mpr ⟨Turn.refused_refused, hk⟩), hs⟩
  | writeLost hp ha =>
    obtain ⟨t, ts, -, hs, -, rfl, rfl, hk, -, hnext⟩ := a.of_writing hp ha
    exact .lost (hnext _ rfl rfl) hs Turn.refused_refused hk (by simp) rfl rfl
  | retry hp | finish hp | conclude hp =>
    refine a.onward ?_ ?_ rfl ?_ ?_ rfl rfl
    all_goals simp [Session.isOver, Session.concluded, Session.gone, hp]
  | adopt hp =>
    refine a.onward ?_ ?_ rfl ?_ ?_ rfl rfl
    all_goals simp [Session.isOver, hp]
  | openFallback hp =>
    have hov : r.session.isOver = false := by simp [Session.isOver, hp]
    exact a.onward hov (by simp [hp]) rfl (a.turns_append rfl hov (by simp [hp])) (by simp) rfl rfl
  | replayed hp | replayStopped hp =>
    have hov : r.session.isOver = false := by simp [Session.isOver, hp]
    exact a.onward hov (by simp [hp]) rfl (a.turns_append rfl hov (by simp [hp])) (by simp) rfl rfl

/-- The session counts the messages that connections have taken. -/
theorem Step.accepted (s : r.Step r') (a : r.InTurn)
    (hc : r.session.chunksToRemote = (turns r.flow).countP Turn.accepted) :
    r'.session.chunksToRemote = (turns r'.flow).countP Turn.accepted := by
  have hnew : ∀ chunk, ¬(⟨r.flow, chunk, none⟩ : Turn).accepted = true := by
    simp [Turn.accepted]
  cases s with
  | beside hl o => exact hc.trans (by rw [after_flow, setLine_flow, turns_append_of_quiet o.quiet])
  | takeFirst =>
    have hq : ∀ e ∈ [Happening.opened r.connections.length r.destination],
        e.takes = false ∧ e.answers = false := by simp [Happening.takes, Happening.answers]
    simp only [withSession_session, Session.prepare_chunksToRemote, withSession_flow, pumping_flow,
      opening_flow, after_flow, after_connections]
    exact hc.trans (by rw [turns_append_of_quiet hq, turns_append_taken,
      List.countP_cons_of_neg (hnew _)])
  | takeNext | crash =>
    simp [turns_append_taken, List.countP_cons_of_neg (hnew _), hc, Session.gone]
  | written hp ha =>
    obtain ⟨t, ts, hts, -, hn, rfl, rfl, -, -, hnext⟩ := a.of_writing hp ha
    rw [hts, List.countP_cons_of_neg (by simp [Turn.accepted, hn])] at hc
    rw [withSession_flow, write_flow, hnext _ rfl rfl,
      List.countP_cons_of_pos Turn.accepted_written, ← hc]
    rfl
  | writeKept hp ha | writeLost hp ha =>
    obtain ⟨t, ts, hts, -, hn, rfl, rfl, -, -, hnext⟩ := a.of_writing hp ha
    rw [hts, List.countP_cons_of_neg (by simp [Turn.accepted, hn])] at hc
    simp only [withSession_flow, cancelling_flow, modify_flow, after_flow]
    rw [hnext _ rfl rfl, List.countP_cons_of_neg (by simp [Turn.accepted]), ← hc]
    rfl
  | openFallback hp =>
    have hov : r.session.isOver = false := by simp [Session.isOver, hp]
    exact hc.trans (congrArg _ (a.turns_append rfl hov (by simp [hp])).symm)
  | replayed hp | replayStopped hp =>
    have hov : r.session.isOver = false := by simp [Session.isOver, hp]
    exact hc.trans (congrArg _ (a.turns_append rfl hov (by simp [hp])).symm)
  | _ => simpa [Session.gone, Session.concluded] using hc

/-! ### The replay -/

/-- How far the replay is. -/
structure Replays (r : Relay) : Prop where
  counted : r.session.replayedChunks = (passed (.written 1) (replayPart r.flow)).length
  /-- A session that replays has taken no newer message. -/
  first : ∀ i rest, r.session.phase = .replaying i rest → passed .taken (sinceFallback r.flow) = []
  newer : ∀ chunk kept, r.session.phase = .writing chunk kept → opensFallback r.flow = true →
    passed .taken (sinceFallback r.flow) ≠ []
  /-- What is missing of the replay is still to come, unless a write was refused or the session was
  told to stop. -/
  whole : opensFallback r.flow = true → ∃ missing,
    passed (.written 1) (replayPart r.flow) ++ missing =
      (ReplayBuffer.offered r.engine.replayLimit (passed .taken (beforeFallback r.flow))).chunks ∧
    (r.session.phase = .replaying 1 missing ∨
      (∀ i chunk rest, r.session.phase ≠ .replaying i (chunk :: rest)) ∧
      (missing = [] ∨ (∃ chunk, .refused 1 chunk ∈ replayPart r.flow) ∨
        r.session.phase = .aborted))

namespace Replays

/-- Without a fallback connection there is no replay. -/
theorem unopened (ho : opensFallback r.flow = false) (hc : r.session.replayedChunks = 0) :
    r.Replays where
  counted := by rw [hc, replayPart_of_not_opens ho, passed_nil, List.length_nil]
  first _ _ _ := by rw [sinceFallback_of_not_opens ho, passed_nil]
  newer _ _ _ h := by simp [ho] at h
  whole h := by simp [ho] at h

theorem replayedChunks_of_not_opens (p : r.Replays) (ho : opensFallback r.flow = false) :
    r.session.replayedChunks = 0 := by
  rw [p.counted, replayPart_of_not_opens ho, passed_nil, List.length_nil]

/-- The replay neither begins nor goes on. -/
theorem onward {h : List Happening} (p : r.Replays) (he : r'.engine = r.engine)
    (hf : r'.flow = r.flow ++ h) (ho : opensFallback h = false)
    (hw : passed (.written 1) (replayPart r'.flow) = passed (.written 1) (replayPart r.flow))
    (hc : r'.session.replayedChunks = r.session.replayedChunks)
    (hr : ∀ i rest, r'.session.phase = .replaying i rest →
      r.session.phase = .replaying i rest ∧ passed .taken h = [])
    (hn : ∀ chunk kept, r'.session.phase = .writing chunk kept →
      r.session.phase = .writing chunk kept ∨ passed .taken h ≠ [])
    (hgo : ∀ rest, r.session.phase = .replaying 1 rest →
      r'.session.phase = .replaying 1 rest ∨ rest = [] ∨ r'.session.phase = .aborted)
    (ha : r.session.phase = .aborted → r'.session.phase = .aborted) : r'.Replays := by
  cases hop : opensFallback r.flow with
  | false =>
    refine unopened (by simp [hf, hop, ho]) (hc.trans (p.replayedChunks_of_not_opens hop))
  | true =>
    have hsince : sinceFallback r'.flow = sinceFallback r.flow ++ h := by
      rw [hf, sinceFallback_append hop]
    constructor
    · rw [hc, hw, p.counted]
    · intro i rest hp
      obtain ⟨hp, ht⟩ := hr i rest hp
      rw [hsince, passed_append, p.first i rest hp, ht, List.append_nil]
    · intro chunk kept hp _
      rw [hsince, passed_append, ne_eq, List.append_eq_nil_iff, not_and_or]
      exact (hn chunk kept hp).imp (fun hp => p.newer chunk kept hp hop) id
    · intro _
      obtain ⟨missing, hm, hcase⟩ := p.whole hop
      refine ⟨missing, ?_, ?_⟩
      · rw [hw, hm, hf, beforeFallback_append hop, he]
      have hcons : (∀ i chunk rest, r.session.phase ≠ .replaying i (chunk :: rest)) →
          ∀ i chunk rest, r'.session.phase ≠ .replaying i (chunk :: rest) :=
        fun hne i chunk rest hp => hne i chunk rest (hr i _ hp).1
      rcases hcase with hp | ⟨hne, hend⟩
      · rcases hgo missing hp with hp' | rfl | hp'
        · exact .inl hp'
        · exact .inr ⟨hcons (by simp [hp]), .inl rfl⟩
        · exact .inr ⟨by simp [hp'], .inr (.inr hp')⟩
      · refine .inr ⟨hcons hne, hend.imp_right (Or.imp ?_ ha)⟩
        rintro ⟨chunk, hm⟩
        exact ⟨chunk, hf ▸ (replayPart_isPrefix hop).subset hm⟩

/-- What the buffer has kept is to be replayed. -/
theorem begin {d : Destination} (p : r.Replays) (hb : r.Books)
    (hp : r.session.phase = .leavingFirst) (hop : opensFallback r.flow = false)
    (he : r'.engine = r.engine) (hf : r'.flow = r.flow ++ [.opened 1 d])
    (hp' : r'.session.phase = .replaying 1 r.session.replay.chunks)
    (hc : r'.session.replayedChunks = r.session.replayedChunks) : r'.Replays := by
  have hsince : sinceFallback r'.flow = [.opened 1 d] := by
    rw [hf, sinceFallback_append_of_not_opens hop]
    rfl
  have hbefore : beforeFallback r'.flow = r.flow := by
    rw [hf, beforeFallback_append_of_not_opens hop]
    exact List.append_nil _
  have hpart : replayPart r'.flow = [.opened 1 d] := by
    rw [replayPart, hsince]
    rfl
  have hkept := hb.kept (by simp [Session.isOver, hp]) (.inr hp)
  constructor
  · rw [hc, p.replayedChunks_of_not_opens hop, hpart]
    rfl
  · exact fun _ _ _ => hsince ▸ rfl
  · simp [hp']
  · refine fun _ => ⟨r.session.replay.chunks, ?_, .inl hp'⟩
    rw [hpart, hbefore, he, ← hkept]
    rfl

/-- While the session replays, all that happens belongs to the replay. -/
theorem replayPart_append {e : Happening} {i : Nat} {rest : List Bytes} (p : r.Replays)
    (hop : opensFallback r.flow = true) (hp : r.session.phase = .replaying i rest)
    (he : e.takes = false) : replayPart (r.flow ++ [e]) = replayPart r.flow ++ [e] := by
  rw [replayPart_append_of_untaken hop (p.first i rest hp)]
  simp [he]

/-- A write of the replay is answered. -/
theorem answer {e : Happening} {chunk : Bytes} {rest rest' : List Bytes} (p : r.Replays)
    (hop : opensFallback r.flow = true) (hp : r.session.phase = .replaying 1 (chunk :: rest))
    (he : r'.engine = r.engine) (hf : r'.flow = r.flow ++ [e])
    (ht : e.takes = false) (hp' : r'.session.phase = .replaying 1 rest')
    (hc : r'.session.replayedChunks = r.session.replayedChunks + (passed (.written 1) [e]).length)
    (hcase : e = .written 1 chunk ∧ rest' = rest ∨ e = .refused 1 chunk ∧ rest' = []) :
    r'.Replays := by
  have hpart : replayPart r'.flow = replayPart r.flow ++ [e] := hf ▸ p.replayPart_append hop hp ht
  have hsince : passed .taken (sinceFallback r'.flow) = [] := by
    rw [hf, sinceFallback_append hop, passed_append, p.first _ _ hp]
    simp [Happening.at?_taken_of_not_takes ht]
  have hbefore : beforeFallback r'.flow = beforeFallback r.flow := by
    rw [hf, beforeFallback_append hop]
  obtain ⟨missing, hm, hmissing⟩ := p.whole hop
  obtain rfl : missing = chunk :: rest := by
    rcases hmissing with hp'' | ⟨hne, -⟩
    · exact (Session.Phase.replaying.inj (hp''.symm.trans hp)).2
    · exact absurd hp (hne _ _ _)
  constructor
  · rw [hc, hpart, passed_append, List.length_append, p.counted]
  · exact fun _ _ _ => hsince
  · simp [hp']
  · intro _
    rw [hpart, hbefore, he, passed_append, ← hm]
    rcases hcase with ⟨rfl, rfl⟩ | ⟨rfl, rfl⟩
    · exact ⟨rest', by simp [Happening.at?, Happening.station?], .inl hp'⟩
    · refine ⟨chunk :: rest, by simp [Happening.at?, Happening.station?], .inr ⟨by simp [hp'], ?_⟩⟩
      exact .inr (.inl ⟨chunk, by simp⟩)

end Replays

theorem Step.replays (s : r.Step r') (h : r.Shape) (hb : r.Books) (p : r.Replays) :
    r'.Replays := by
  have hst := h.stands
  cases s with
  | beside hl o =>
    obtain ⟨ho, ht, hw, -⟩ := o.flow
    refine p.onward rfl rfl ho (written_replayPart_append (hw 1) ho) rfl ?_ ?_ ?_ id
    · exact fun i rest hp => ⟨hp, ht⟩
    · exact fun chunk kept hp => .inl hp
    · exact fun rest hp => .inl hp
  | idle => exact p
  | abort | hearEnd =>
    refine p.onward (h := []) rfl (by simp) rfl (by simp) rfl ?_ ?_ ?_ id
    · exact fun i rest hp => ⟨hp, rfl⟩
    · exact fun chunk kept hp => .inl hp
    · exact fun rest hp => .inl hp
  | takeFirst hp ho hw _ | crash hp ho hw _ =>
    have hn := (hst.of_awaiting hp hw).1
    have hop : opensFallback r.flow = false := by simp [← Bool.not_eq_true, h.opens, hn]
    refine .unopened (by simp [hop, hn, Happening.opens]) ?_
    simpa [Session.gone] using p.replayedChunks_of_not_opens hop
  | @takeNext i chunk hp _ _ _ =>
    refine p.onward (h := [.taken chunk]) rfl rfl rfl (written_replayPart_append rfl rfl)
      ?_ ?_ ?_ ?_ ?_
    all_goals simp [hp, Happening.at?, Happening.station?]
  | @written i chunk kept _ hp ha _ _ _ =>
    refine p.onward (h := [.written i chunk]) rfl rfl rfl ?_ rfl ?_ ?_ ?_ ?_
    · -- The message is newer than the replay.
      rw [withSession_flow, write_flow]
      cases hop : opensFallback r.flow with
      | true => rw [replayPart_append_of_taken hop (p.newer chunk kept hp hop)]
      | false =>
        rw [replayPart_of_not_opens hop, replayPart_of_not_opens (by simp [hop, Happening.opens])]
    all_goals simp [hp]
  | @writeKept i chunk _ hp | @writeLost i chunk _ hp =>
    refine p.onward (h := [.refused i chunk]) rfl rfl rfl (written_replayPart_append rfl rfl) rfl
      ?_ ?_ ?_ ?_
    all_goals simp [hp]
  | retry hp | finish hp | conclude hp =>
    refine p.onward (h := []) rfl (by simp) rfl (by simp) rfl ?_ ?_ ?_ ?_
    all_goals simp [hp, Session.concluded, Session.gone]
  | adopt hp =>
    refine p.onward (h := []) rfl (by simp) rfl (by simp) rfl ?_ ?_ ?_ ?_
    all_goals simp [hp]
  | abandon =>
    refine p.onward (h := []) rfl (by simp) rfl (by simp) rfl ?_ ?_ ?_ ?_
    all_goals simp [Session.gone]
  | openFallback hp _ _ =>
    have hn := (hst.of_leavingFirst hp).1
    have hop : opensFallback r.flow = false := by simp [← Bool.not_eq_true, h.opens, hn]
    refine p.begin (d := r.fallback) hb hp hop rfl ?_ ?_ rfl <;> simp [hn]
  | replayed hp | replayStopped hp =>
    obtain ⟨rfl, hn, -⟩ := hst.of_replaying hp
    have hop : opensFallback r.flow = true := h.opens.mpr hn.ge
    refine p.answer hop hp rfl rfl rfl rfl ?_ ?_
    all_goals simp [Happening.at?, Happening.station?]

/-! ### All accounts -/

/-- What the session counts agrees with the turns of its messages and with the replay. -/
structure Accounts (r : Relay) : Prop where
  inTurn : r.InTurn
  accepted : r.session.chunksToRemote = (turns r.flow).countP Turn.accepted
  replays : r.Replays

theorem Step.accounts (s : r.Step r') (h : r.Sound) (a : r.Accounts) : r'.Accounts where
  inTurn := s.inTurn h.shape h.fits h.books a.inTurn
  accepted := s.accepted a.inTurn a.accepted
  replays := s.replays h.shape h.books a.replays

theorem accounts_start {σ : Type} (engine : Engine) (d : Destination) (client : σ)
    (eventCapacity : Nat) (peers : List Peer) :
    (World.start engine d client eventCapacity peers).relay.Accounts where
  inTurn := .waiting nofun nofun rfl
  accepted := rfl
  replays := .unopened rfl rfl

end Relay

theorem World.accounts_of_run {σ : Type} [ClientChannel σ] {w : World σ} {engine : Engine}
    {d : Destination} {client : σ} {eventCapacity : Nat} {peers : List Peer} {moves : List (Move σ)}
    (h : (start engine d client eventCapacity peers).run? moves = some w) : w.relay.Accounts :=
  (keep_of_run (fun _ _ hs s => s.accounts hs)
    (Relay.accounts_start engine d client eventCapacity peers) h).2

end Tunnel
