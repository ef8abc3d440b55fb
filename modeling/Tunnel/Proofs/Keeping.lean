import Tunnel.Client.Scripted
import Tunnel.Proofs.Counters
import Tunnel.Proofs.LateDial

/-!
# What is kept for a replay

A session keeps its messages from the first one on, as long as they fit the limit together. Of a
message whose write fails either the session has a copy, and goes on, or the message is lost and
the client's chunks are cancelled. A limit of zero has room for no byte, but for messages without
one.

## Main definitions

* `Turn.lost` — the write of a message has failed, and the message was not kept.
* `Relay.Keeping` — what is in the replay buffer.
* `World.Keeps` — something is kept at some moment of a run.

## Main statements

* `World.cancelled_eq` — the client's chunks are cancelled as soon as a message is lost.
* `World.zero_limit_iff` — what a limit of zero keeps, what it replays, and which failed writes it
  passes over.
-/

namespace Tunnel

namespace Turn

variable {limit : Nat} {t : Turn}

/-- The write of the message has failed, and the message was not kept for a replay. -/
def lost (limit : Nat) (t : Turn) : Bool := t.refused && !t.keepable limit

theorem not_lost_of_settled (h : t.Settled limit) : t.lost limit = false := by
  rcases h with ha | hk
  · simp [lost, of_decide_eq_true ha, refused]
  · simp [lost, (Bool.and_eq_true_iff.mp hk).2]

theorem not_lost_of_unanswered (h : t.answer = none) : t.lost limit = false := by
  simp [lost, refused, h]

@[simp] theorem lost_bare : t.bare.lost limit = t.lost limit := by
  simp [lost]

/-- With a limit of zero, a message can be kept if it is empty, and all before it. -/
theorem keepable_zero_iff : t.keepable 0 = true ↔ opensFallback t.before = false ∧
    passed (.handedOut 0) t.before = [] ∧
    ∀ m ∈ passed .taken t.before ++ [t.message], m = [] := by
  simp only [keepable, Bool.and_eq_true, Bool.not_eq_true', List.isEmpty_iff, decide_eq_true_eq,
    Nat.le_zero, List.length_eq_zero_iff, List.flatten_eq_nil_iff, and_assoc]

end Turn

namespace Relay

variable {r r' : Relay}

/-! ### The replay buffer -/

/-- The buffer holds messages from the first one on, within the limit; and what comes before the
fallback connection is not without a message. -/
structure Keeping (r : Relay) : Prop where
  taken : r.session.replay.chunks <+: passed .taken r.flow
  fits : r.session.replay.chunks.flatten.length ≤ r.engine.replayLimit
  opened : r.session.replay.chunks ≠ [] → r.connections ≠ []
  begun : opensFallback r.flow = true → passed .taken (beforeFallback r.flow) ≠ []

/-- A session has taken a message before it opens the fallback connection. -/
theorem Step.begun (s : r.Step r') (h : r.Shape) (o : r.Openings) (k : r.Keeping) :
    opensFallback r'.flow = true → passed .taken (beforeFallback r'.flow) ≠ [] := by
  intro ho'
  cases ho : opensFallback r.flow with
  | true =>
    obtain ⟨f, e⟩ := s.evolves h
    rw [e.flow, beforeFallback_append ho]
    exact k.begun ho
  | false =>
    cases s with
    | openFallback hp _ _ =>
      have hn := (h.stands.of_leavingFirst hp).1
      have ht := o.taken (by simp [← List.length_eq_zero_iff, hn])
      simp only [withSession_flow, opening_flow, modify_flow]
      rw [beforeFallback_append_of_not_opens ho, passed_append]
      exact List.append_ne_nil_of_left_ne_nil ht _
    | takeFirst hp _ hw _ =>
      have hn := (h.stands.of_awaiting hp hw).1
      simp [ho, Happening.opens, hn] at ho'
    | beside _ own => simp [ho, own.flow.1] at ho'
    | _ => simp [ho, Happening.opens] at ho'

/-- The buffer stays, while more happens. -/
theorem Keeping.onward (k : r.Keeping) (he : r'.engine = r.engine)
    (hr : r'.session.replay = r.session.replay) (hf : r.flow <+: r'.flow)
    (hc : r.connections ≠ [] → r'.connections ≠ [])
    (hb : opensFallback r'.flow = true → passed .taken (beforeFallback r'.flow) ≠ []) :
    r'.Keeping where
  taken := by
    rw [hr]
    exact k.taken.trans (hf.filterMap _)
  fits := by simpa only [hr, he] using k.fits
  opened hn := hc (k.opened (hr ▸ hn))
  begun := hb

/-- The session takes one more message, and keeps it with all others if a retry is possible. -/
theorem Keeping.take {h : List Happening} {s : Session} {delivered : Bool} {chunk : Bytes}
    (k : r.Keeping) (he : r'.engine = r.engine) (hf : r'.flow = r.flow ++ [.taken chunk] ++ h)
    (ht : passed .taken h = []) (hs : r'.session = s.prepare delivered chunk)
    (hr : s.replay = r.session.replay)
    (hk : (s.retried || delivered) = false →
      s.replay = .offered r.engine.replayLimit (passed .taken r.flow))
    (hc : r'.connections ≠ [])
    (hb : opensFallback r'.flow = true → passed .taken (beforeFallback r'.flow) ≠ []) :
    r'.Keeping := by
  have htaken : passed .taken r'.flow = passed .taken r.flow ++ [chunk] := by
    simp [hf, ht, Happening.at?, Happening.station?]
  cases hret : s.retried || delivered with
  | true =>
    have hsame : r'.session.replay = r.session.replay := by
      rw [hs, Session.prepare_replay, if_pos hret, hr]
    exact k.onward he hsame (hf ▸ List.append_assoc .. ▸ List.prefix_append ..) (fun _ => hc) hb
  | false =>
    have hnew : r'.session.replay = .offered r'.engine.replayLimit (passed .taken r'.flow) := by
      rw [hs, Session.prepare_replay, hret, if_neg Bool.false_ne_true, hk hret,
        ReplayBuffer.record_offered, he, htaken]
    refine ⟨?_, ?_, fun _ => hc, hb⟩
    · exact hnew ▸ ReplayBuffer.offered_isPrefix
    · exact hnew ▸ ReplayBuffer.offered_length_le

theorem Step.keeping (s : r.Step r') (h : r.Sound) (k : r.Keeping) : r'.Keeping := by
  have hst := h.shape.stands
  have hb := s.begun h.shape h.openings k
  cases s with
  | takeFirst hp _ hw _ =>
    obtain ⟨hn, -, -, hret⟩ := hst.of_awaiting hp hw
    have hov : r.session.isOver = false := by simp [Session.isOver, hp]
    have hh : passed (.handedOut 0) r.flow = [] :=
      (h.fits.absent 0 (line?_eq_none_iff.mpr (by omega))).passed_eq_nil (by simp)
    refine k.take rfl rfl rfl rfl rfl (fun _ => h.books.kept hov (.inl ⟨hret, hh⟩)) ?_ hb
    simp [← List.length_eq_zero_iff]
  | @takeNext i chunk hp _ _ ha =>
    obtain ⟨hn, -, hi⟩ := hst.of_active (.inl hp) ha
    have hov : r.session.isOver = false := by simp [Session.isOver, hp]
    refine k.take rfl (List.append_nil _).symm rfl rfl rfl (fun hnr => ?_) ?_ hb
    · obtain ⟨hret, hdel⟩ := Bool.or_eq_false_iff.mp hnr
      obtain rfl : i = 0 := by simp [hi, hret]
      obtain ⟨c, hc, -⟩ := h.shape.connection_of_current (.inl ha)
      have hd := h.fits.delivered_iff hc
      exact h.books.kept hov (.inl ⟨hret, by simpa [hdel] using hd⟩)
    · simp [← List.length_eq_zero_iff, hn]
  | openFallback hp _ _ =>
    refine ⟨?_, ?_, fun hn => absurd rfl hn, hb⟩ <;> simp [ReplayBuffer.take]
  | beside =>
    exact k.onward rfl rfl (List.prefix_append ..) (by simp [← List.length_eq_zero_iff]) hb
  | _ =>
    refine k.onward rfl rfl ?_ ?_ hb
    all_goals simp [← List.length_eq_zero_iff]

/-- The first message is offered to the buffer when its connection is opened. -/
theorem Step.first_offered (s : r.Step r') (h : r.Sound) (hn : r.connections = [])
    (hc : r'.connections ≠ []) : ∃ chunk, passed .taken r'.flow = [chunk] ∧
      r'.session.replay = .offered r'.engine.replayLimit [chunk] := by
  rw [← List.length_eq_zero_iff] at hn
  rw [ne_eq, ← List.length_eq_zero_iff] at hc
  cases s with
  | @takeFirst chunk hp _ hw _ =>
    have hret := (h.shape.stands.of_awaiting hp hw).2.2.2
    have hov : r.session.isOver = false := by simp [Session.isOver, hp]
    have ht : passed .taken r.flow = [] := h.books.fresh hov hn
    have hh : passed (.handedOut 0) r.flow = [] :=
      (h.fits.absent 0 (line?_eq_none_iff.mpr hn.le)).passed_eq_nil (by simp)
    have hk : (r.session.replay.record chunk).2 = .offered r.engine.replayLimit [chunk] := by
      rw [h.books.kept hov (.inl ⟨hret, hh⟩), ht, ReplayBuffer.record_offered]
      rfl
    exact ⟨chunk, by simp [ht, Happening.at?, Happening.station?], by simp [hret, hk]⟩
  | openFallback hp _ _ => simp [(h.shape.stands.of_leavingFirst hp).1] at hn
  | _ => simp [hn] at hc

/-! ### Lost messages -/

/-- A session that was not stopped has cancelled the client's chunks if its last message is lost. -/
theorem InTurn.cancelled_eq (a : r.InTurn)
    (hp : ¬(r.session.phase = .crashed ∨ r.session.phase = .aborted)) :
    r.cancelled = (turns r.flow).head?.any (Turn.lost r.engine.replayLimit) := by
  cases a with
  | waiting hs _ hc =>
    rw [hc]
    cases ht : turns r.flow with
    | nil => rfl
    | cons t ts => exact (Turn.not_lost_of_settled (hs t (by simp [ht]))).symm
  | writing ht _ hn _ _ hc =>
    rw [hc, ht]
    exact (Turn.not_lost_of_unanswered hn).symm
  | lost ht _ hr hk _ _ hc =>
    rw [hc, ht]
    simp [Turn.lost, hr, hk]
  | stopped hg => exact absurd hg hp

/-- A session that is stopped leaves this as it is. -/
theorem Step.cancelled_eq (s : r.Step r') (h : r.Sound) (a : r.InTurn)
    (hc : r.cancelled = (turns r.flow).head?.any (Turn.lost r.engine.replayLimit)) :
    r'.cancelled = (turns r'.flow).head?.any (Turn.lost r'.engine.replayLimit) := by
  by_cases hp : r'.session.phase = .crashed ∨ r'.session.phase = .aborted
  · cases s with
    | beside _ o => simpa [turns_append_of_quiet o.quiet] using hc
    | idle | abort => exact hc
    | crash hsel ho _ _ =>
      simp [(a.settled hsel ho).2, turns_append_taken, Turn.not_lost_of_unanswered]
    | abandon => simpa using hc
    | hearEnd hsel => simp [hsel] at hp
    | _ => simp [Session.concluded, Session.gone] at hp
  · exact (s.inTurn h.shape h.fits h.books a).cancelled_eq hp

end Relay

namespace World

variable {σ : Type} [ClientChannel σ] {w : World σ} {engine : Engine} {d : Destination}
  {client : σ} {eventCapacity : Nat} {peers : List Peer} {moves : List (Move σ)}

theorem keeping_of_run (h : (start engine d client eventCapacity peers).run? moves = some w) :
    w.relay.Keeping := by
  refine (keep_of_run (fun _ _ hs s => s.keeping hs) ?_ h).2
  constructor <;> simp [start, relay, history]

/-- The client's chunks are cancelled if the last message is lost, and only then. -/
theorem cancelled_eq (h : (start engine d client eventCapacity peers).run? moves = some w) :
    w.chunks.cancelled = (turns w.history).head?.any (Turn.lost engine.replayLimit) := by
  have hkeep : ∀ r r' : Relay, r.Sound → r.Step r' →
      r.InTurn ∧ r.cancelled = (turns r.flow).head?.any (Turn.lost r.engine.replayLimit) →
      r'.InTurn ∧ r'.cancelled = (turns r'.flow).head?.any (Turn.lost r'.engine.replayLimit) :=
    fun r r' hs s ⟨ha, hc⟩ =>
      ⟨s.inTurn hs.shape hs.fits hs.books ha, s.cancelled_eq hs ha hc⟩
  have hc := (keep_of_run hkeep
    ⟨(Relay.accounts_start engine d client eventCapacity peers).inTurn, rfl⟩ h).2.2
  rw [turns_relay_flow, show w.relay.engine = engine from engine_of_run h] at hc
  refine hc.trans ?_
  cases turns w.history <;> simp

/-- At some moment of a run something is kept for a replay. -/
def Keeps (w : World σ) (moves : List (Move σ)) : Prop :=
  ∃ before after v, moves = before ++ after ∧ w.run? before = some v ∧
    v.session.replay.chunks ≠ []

/-- With a limit of zero, what is kept has no byte. -/
theorem kept_eq_nil (h : (start engine d client eventCapacity peers).run? moves = some w)
    (h0 : engine.replayLimit = 0) : ∀ chunk ∈ w.session.replay.chunks, chunk = [] := by
  have hf := (keeping_of_run h).fits
  rw [show w.relay.engine = engine from engine_of_run h, h0, Nat.le_zero,
    List.length_eq_zero_iff] at hf
  exact List.flatten_eq_nil_iff.mp hf

/-- With a limit of zero, something is kept if the first message is empty, unless the session
crashes at it. -/
theorem keeps_zero_iff (h : (start engine d client eventCapacity peers).run? moves = some w)
    (h0 : engine.replayLimit = 0) :
    (start engine d client eventCapacity peers).Keeps moves ↔
      opened w.history ≠ [] ∧ (passed .taken w.history).head? = some [] := by
  constructor
  · rintro ⟨before, after, v, rfl, hv, hne⟩
    rw [run?_append, hv, Option.bind_some] at h
    have hk := keeping_of_run hv
    have hopened : opened v.history ≠ [] := by
      rw [← List.length_pos_iff, length_opened hv, List.length_pos_iff]
      exact hk.opened hne
    have htaken : v.session.replay.chunks <+: passed .taken w.history :=
      (passed_relay_flow (w := v) ▸ hk.taken).trans ((history_isPrefix h).filterMap _)
    refine ⟨fun hn => hopened (List.prefix_nil.mp (hn ▸ opened_isPrefix h)), ?_⟩
    obtain ⟨chunk, rest, hc⟩ := List.exists_cons_of_ne_nil hne
    obtain rfl : chunk = [] := kept_eq_nil hv h0 chunk (by simp [hc])
    obtain ⟨later, hl⟩ := hc ▸ htaken
    simp [← hl]
  · rintro ⟨ho, ht⟩
    have hc : w.transport.connections ≠ [] := by
      rwa [← List.length_pos_iff, ← length_opened h, List.length_pos_iff]
    -- The first message is kept at the move that opens its connection.
    obtain ⟨before, m, after, v, v', rfl, hv, hm, ha, hn, hc'⟩ := exists_turn
      (P := fun w => w.transport.connections ≠ []) h (by simp [start]) hc
    have hs := sound_of_run hv
    have hv' : (start engine d client eventCapacity peers).run? (before ++ [m]) = some v' := by
      simp [run?_append, hv, run?, hm]
    obtain ⟨chunk, htaken, hk⟩ := (step_of_move hs.shape hs.fits hm).first_offered hs
      (not_not.mp hn) hc'
    rw [passed_relay_flow] at htaken
    obtain ⟨later, hl⟩ : passed .taken v'.history <+: passed .taken w.history :=
      (history_isPrefix ha).filterMap _
    obtain rfl : chunk = [] := by simpa [← hl, htaken] using ht
    refine ⟨before ++ [m], after, v', by simp, hv', ?_⟩
    have hk : v'.session.replay = .offered v'.engine.replayLimit [[]] := hk
    simp [hk, ReplayBuffer.offered_chunks]

/-- With a limit of zero, chunks are replayed only if all messages before the fallback connection
are empty; then they are, unless a write is refused. -/
theorem replayed_zero_iff {report : Report}
    (h : (start engine d client eventCapacity peers).run? moves = some w)
    (h0 : engine.replayLimit = 0) (hp : w.session.phase = .ended report) :
    (report.replayedChunks ≠ 0 → report.retried = true ∧
      ∀ m ∈ passed .taken (beforeFallback w.history), m = []) ∧
    (report.retried = true → (∀ m ∈ passed .taken (beforeFallback w.history), m = []) →
      (∀ chunk, .refused 1 chunk ∉ replayPart w.history) → report.replayedChunks ≠ 0) := by
  obtain ⟨hreport, -, hcount⟩ := told_of_run h hp
  obtain ⟨hnone, -, hall⟩ := replayed_of_ended h hp
  have hopens : opensFallback w.history = true ↔ report.retried = true := by
    rw [opensFallback_iff h, ← retried_iff_of_ended h hp, hreport]
    rfl
  have hempty : (passed .taken (beforeFallback w.history)).flatten.length ≤ engine.replayLimit ↔
      ∀ m ∈ passed .taken (beforeFallback w.history), m = [] := by
    rw [h0, Nat.le_zero, List.length_eq_zero_iff, List.flatten_eq_nil_iff]
  have hzero : report.replayedChunks ≠ 0 ↔ passed (.written 1) (replayPart w.history) ≠ [] := by
    rw [hreport, ne_eq, ne_eq, ← List.length_eq_zero_iff, ← hcount]
    rfl
  rw [hzero, ← hopens, ← hempty]
  constructor
  · intro hne
    constructor
    · by_contra ho
      exact hne (hnone (.inl (by simpa using ho)))
    · by_contra hover
      exact hne (hnone (.inr (Nat.not_le.mp hover)))
  · intro ho hfit hn
    have hb := (keeping_of_run h).begun (opensFallback_relay_flow.trans ho)
    rw [taken_beforeFallback_relay_flow] at hb
    rwa [hall ho hfit hn]

/-- With a limit of zero nothing is kept, unless the first message is empty and gets a connection;
and nothing but empty messages is. No chunk is replayed unless the session goes over to the
fallback connection after none but empty messages; then those are replayed, if their writes are not
refused. A message whose write has failed cancels the client's chunks, unless it was for the first
connection, before a chunk came from there, and is empty like all before it. -/
theorem zero_limit_iff (h : (start engine d client eventCapacity peers).run? moves = some w)
    (h0 : engine.replayLimit = 0) :
    ((start engine d client eventCapacity peers).Keeps moves ↔
      opened w.history ≠ [] ∧ (passed .taken w.history).head? = some []) ∧
    (∀ chunk ∈ w.session.replay.chunks, chunk = []) ∧
    (∀ report, w.session.phase = .ended report →
      (report.replayedChunks ≠ 0 → report.retried = true ∧
        ∀ m ∈ passed .taken (beforeFallback w.history), m = []) ∧
      (report.retried = true → (∀ m ∈ passed .taken (beforeFallback w.history), m = []) →
        (∀ chunk, .refused 1 chunk ∉ replayPart w.history) → report.replayedChunks ≠ 0)) ∧
    (∀ t, (turns w.history).head? = some t → t.refused = true → (w.chunks.cancelled = false ↔
      opensFallback t.before = false ∧ passed (.handedOut 0) t.before = [] ∧
        ∀ m ∈ passed .taken t.before ++ [t.message], m = [])) := by
  refine ⟨keeps_zero_iff h h0, kept_eq_nil h h0, fun report => replayed_zero_iff h h0, ?_⟩
  intro t ht hr
  rw [cancelled_eq h, ht, h0, ← Turn.keepable_zero_iff]
  simp [Turn.lost, hr]

/-- With a limit of zero, the first dial is refused, and so is the write of the second of two empty
messages. The session then goes over to the fallback connection. -/
def emptied : World ScriptedClient :=
  start { fallbackHost := "fallback", replayLimit := 0 } { host := "first", port := 80 } {} 8
    [{ answer := .refused { kind := .connectionRefused } },
      { answer := .accepted, endpoint := { ends := true } }]

def emptiedMoves : List (Move ScriptedClient) :=
  [.event (.message []), .session .take, .session .resume, .driver 0 .dial, .driver 0 .connect,
    .event (.message []), .session .take, .session .resume, .pump 0, .session .join] ++
  List.replicate 4 (.session .resume) ++
  [.driver 1 .dial, .driver 1 .connect, .driver 1 .read, .pump 1, .pump 1, .session .join]

/-- What is told of it. -/
def emptiedReport : Report where
  destination := { host := "first", port := 80 }
  stage := .done
  connected := true
  retried := true
  replayedChunks := 2
  chunksToRemote := 1
  hasIncomingData := false
  closeRequested := true

theorem zero_limit_iff_emptied : emptied.engine.replayLimit = 0 ∧
    ∃ w t, emptied.run? emptiedMoves = some w ∧ w.session.phase = .ended emptiedReport ∧
      (turns w.history).head? = some t ∧ t.refused = true ∧ emptied.Keeps emptiedMoves ∧
      (∀ m ∈ passed .taken (beforeFallback w.history), m = []) ∧ w.chunks.cancelled = false := by
  have hrun : (emptied.run? emptiedMoves).map (fun w => (w.session.phase, opened w.history,
      passed .taken w.history, (turns w.history).head?.map fun t => (t.refused,
        opensFallback t.before, passed (.handedOut 0) t.before, passed .taken t.before,
        t.message))) =
      some (.ended emptiedReport, [{ host := "first", port := 80 },
        { host := "fallback", port := 80 }], [[], []], some (true, false, [], [[]], [])) := by rfl
  obtain ⟨w, hw, he⟩ := Option.map_eq_some_iff.mp hrun
  simp only [Prod.mk.injEq, Option.map_eq_some_iff] at he
  obtain ⟨hp, ho, ht, t, hhead, hr, hfirst, hh, hbefore, hm⟩ := he
  obtain ⟨hkeeps, -, hreport, hlast⟩ := zero_limit_iff hw rfl
  refine ⟨rfl, w, t, hw, hp, hhead, hr, hkeeps.mpr (by simp [ho, ht]), ?_, ?_⟩
  · exact ((hreport emptiedReport hp).1 (by decide)).2
  · exact (hlast t hhead hr).mpr ⟨hfirst, hh, by simp [hbefore, hm]⟩

/-- Although the limit is zero, both messages are replayed, and the session goes on after the write
of one has failed. -/
theorem emptied_replays : emptied.engine.replayLimit = 0 ∧ ∃ w report,
    emptied.run? emptiedMoves = some w ∧ w.session.phase = .ended report ∧
    report.replayedChunks = 2 ∧ .refused 0 [] ∈ w.history ∧ w.chunks.cancelled = false := by
  have hrun : (emptied.run? emptiedMoves).map (fun w => (w.session.phase,
      decide (.refused 0 [] ∈ w.history), w.chunks.cancelled)) =
      some (.ended emptiedReport, true, false) := by rfl
  obtain ⟨w, hw, he⟩ := Option.map_eq_some_iff.mp hrun
  simp only [Prod.mk.injEq, decide_eq_true_eq] at he
  exact ⟨rfl, w, emptiedReport, hw, he.1, rfl, he.2⟩

end World

end Tunnel
