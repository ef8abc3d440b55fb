import Tunnel.Proofs.Relay.Lines
import Tunnel.Proofs.Replay

/-!
# The books of a session

What a session owes to a connection: to the first one all chunks that it has taken, to the
fallback connection those that a replay gives and then all that it has taken since. What was
written to a connection comes off the front of this, and unless a write was refused, the session
has the rest in hand.

## Main definitions

* `owed` — the chunks that a connection is to get.
* `Relay.Books` — how this agrees with what was written and with what the session holds.

## Main statements

* `Relay.Step.books` — a step keeps the books.
-/

namespace Tunnel

/-- The chunks that connection number `i` is to get: the first one all chunks, and so the fallback
connection if what was taken before its opening is within the limit; otherwise only what was
taken since. -/
def owed (limit : Nat) (i : Nat) (h : List Happening) : List Bytes :=
  if i = 0 ∨ (passed .taken (beforeFallback h)).flatten.length ≤ limit then passed .taken h
  else passed .taken (sinceFallback h)

section owed

variable {limit i : Nat} {h h' : List Happening} {chunk : Bytes}

@[simp] theorem owed_zero : owed limit 0 h = passed .taken h := rfl

/-- As long as nothing is taken and no fallback opened, nothing more is owed. -/
theorem owed_append (ht : passed .taken h' = []) (ho : opensFallback h' = false) :
    owed limit i (h ++ h') = owed limit i h := by
  unfold owed
  cases hf : opensFallback h with
  | false =>
    rw [beforeFallback_append_of_not_opens hf, sinceFallback_append_of_not_opens hf,
      beforeFallback_of_not_opens hf, sinceFallback_of_not_opens hf,
      beforeFallback_of_not_opens ho, sinceFallback_of_not_opens ho]
    simp [ht]
  | true =>
    rw [beforeFallback_append hf, sinceFallback_append hf]
    simp [ht]

/-- A chunk that is taken is owed, too. -/
theorem owed_append_taken (hi : i = 0 ∨ opensFallback h = true) :
    owed limit i (h ++ [.taken chunk]) = owed limit i h ++ [chunk] := by
  have hc : passed .taken [.taken chunk] = [chunk] := by simp [Happening.at?, Happening.station?]
  unfold owed
  rcases hi with rfl | hf
  · rw [if_pos (.inl rfl), if_pos (.inl rfl), passed_append, hc]
  · rw [beforeFallback_append hf, sinceFallback_append hf]
    simp only [passed_append, hc]
    split <;> rfl

/-- At its opening, the fallback connection is owed the replay. -/
theorem owed_opened {d : Destination} (hf : opensFallback h = false) :
    owed limit 1 (h ++ [.opened 1 d]) = (ReplayBuffer.offered limit (passed .taken h)).chunks := by
  have hb : beforeFallback [.opened 1 d] = [] := rfl
  have hs : passed .taken (sinceFallback [.opened 1 d]) = [] := rfl
  unfold owed
  rw [beforeFallback_append_of_not_opens hf, sinceFallback_append_of_not_opens hf, hb, hs,
    ReplayBuffer.offered_chunks]
  simp [Happening.at?, Happening.station?]

/-- Leaving out what concerns no data leaves what is owed. -/
theorem owed_filter_concernsData :
    owed limit i (h.filter Happening.concernsData) = owed limit i h := by
  obtain ⟨-, hb, hs⟩ := fallback_filter_concernsData (h := h)
  simp only [owed, hb, hs, passed_filter_concernsData]

end owed

namespace Relay

/-- What is owed, what was written and what the session has in hand agree. -/
structure Books (r : Relay) : Prop where
  written : ∀ i, i < r.connections.length →
    passed (.written i) r.flow <+: owed r.engine.replayLimit i r.flow
  current : ∀ i, r.session.current? = some i → (∀ chunk, .refused i chunk ∉ r.flow) →
    passed (.written i) r.flow ++ r.session.inHand = owed r.engine.replayLimit i r.flow
  /-- After a refused write something is missing for good. -/
  refused : ∀ i chunk, r.session.current? = some i → .refused i chunk ∈ r.flow →
    (passed (.written i) r.flow ++ r.session.inHand).length <
      (owed r.engine.replayLimit i r.flow).length
  fresh : r.session.isOver = false → r.connections.length = 0 → passed .taken r.flow = []
  /-- While a retry is possible, the buffer was offered all chunks. -/
  kept : r.session.isOver = false →
    r.session.retried = false ∧ passed (.handedOut 0) r.flow = [] ∨
      r.session.phase = .leavingFirst →
    r.session.replay = .offered r.engine.replayLimit (passed .taken r.flow)
  keeping : ∀ chunk, r.session.phase = .writing chunk true →
    (passed .taken r.flow).flatten.length ≤ r.engine.replayLimit
  /-- A session goes on after a refused write only if all chunks fit the buffer. -/
  swallowed : ∀ chunk, r.session.retried = false → r.session.active = some 0 →
    r.session.phase = .selecting → .refused 0 chunk ∈ r.flow →
    (passed .taken r.flow).flatten.length ≤ r.engine.replayLimit

variable {r r' : Relay}

/-- A step that neither takes nor writes a chunk, and leaves the session where it is. -/
theorem Books.quiet {h : List Happening} (b : r.Books) (he : r'.engine = r.engine)
    (hn : r'.connections.length = r.connections.length) (hf : r'.flow = r.flow ++ h)
    (ho : opensFallback h = false) (ht : passed .taken h = [])
    (hw : ∀ i, passed (.written i) h = []) (hr : ∀ i chunk, .refused i chunk ∉ h)
    (hp : r'.session.phase = r.session.phase) (ha : r'.session.active = r.session.active)
    (hs : r'.session.retried = r.session.retried) (hb : r'.session.replay = r.session.replay) :
    r'.Books := by
  have hov : r'.session.isOver = r.session.isOver := by simp [Session.isOver, hp]
  have hcu : r'.session.current? = r.session.current? := by
    simp [Session.current?, Session.target?, hp, ha]
  have hih : r'.session.inHand = r.session.inHand := by simp [Session.inHand, hp]
  have how : ∀ i, owed r'.engine.replayLimit i r'.flow = owed r.engine.replayLimit i r.flow := by
    intro i
    rw [he, hf, owed_append ht ho]
  have htk : passed .taken r'.flow = passed .taken r.flow := by simp [hf, ht]
  have hwr : ∀ i, passed (.written i) r'.flow = passed (.written i) r.flow := by simp [hf, hw]
  have hre : ∀ i chunk, .refused i chunk ∈ r'.flow ↔ .refused i chunk ∈ r.flow := by
    simp [hf, hr]
  constructor
  · simpa only [hn, how, hwr] using b.written
  · simpa only [hcu, hre, hwr, hih, how] using b.current
  · simpa only [hcu, hre, hwr, hih, how] using b.refused
  · simpa only [hov, hn, htk] using b.fresh
  · rw [hov, hs, hp, hb, htk, he]
    rintro hov (⟨hs, hh⟩ | hl)
    · rw [hf, passed_append, List.append_eq_nil_iff] at hh
      exact b.kept hov (.inl ⟨hs, hh.1⟩)
    · exact b.kept hov (.inr hl)
  · simpa only [hp, htk, he] using b.keeping
  · simpa only [hs, ha, hp, hre, htk, he] using b.swallowed

/-- A session that is over has nothing to write any more. -/
theorem Books.of_over (ho : r'.session.isOver = true) (ha : r'.session.active = none)
    (hw : ∀ i, i < r'.connections.length →
      passed (.written i) r'.flow <+: owed r'.engine.replayLimit i r'.flow) : r'.Books := by
  have hc : r'.session.current? = none := by
    cases hp : r'.session.phase <;> simp_all [Session.isOver, Session.current?, Session.target?]
  have hp : r'.session.phase ≠ .selecting ∧ ∀ chunk, r'.session.phase ≠ .writing chunk true := by
    constructor
    · intro hp
      simp [Session.isOver, hp] at ho
    · intro chunk hp
      simp [Session.isOver, hp] at ho
  constructor
  · exact hw
  · simp [hc]
  · simp [hc]
  · simp [ho]
  · simp [ho]
  · exact fun chunk h => absurd h (hp.2 chunk)
  · exact fun _ _ _ h => absurd h hp.1

/-- A chunk is taken for connection number `i`, and offered to the buffer unless a retry has
become impossible. -/
theorem Books.of_prepare {s : Session} {i : Nat} {chunk : Bytes} {delivered : Bool}
    (hs : r'.session = s.prepare delivered chunk) (ha : s.active = some i)
    (hn : r'.connections.length ≠ 0)
    (hw : ∀ j, j < r'.connections.length →
      passed (.written j) r'.flow <+: owed r'.engine.replayLimit j r'.flow)
    (hc : (∀ data, .refused i data ∉ r'.flow) →
      passed (.written i) r'.flow ++ [chunk] = owed r'.engine.replayLimit i r'.flow)
    (hr : ∀ data, .refused i data ∈ r'.flow →
      (passed (.written i) r'.flow ++ [chunk]).length <
        (owed r'.engine.replayLimit i r'.flow).length)
    (hd : s.retried = false → passed (.handedOut 0) r'.flow = [] → delivered = false)
    (hb : s.retried = false → delivered = false → ∃ chunks,
      s.replay = .offered r'.engine.replayLimit chunks ∧
        passed .taken r'.flow = chunks ++ [chunk]) : r'.Books := by
  constructor
  · exact hw
  · intro j hj
    obtain rfl : i = j := by simpa [hs, ha] using hj
    simpa [hs] using hc
  · intro j data hj
    obtain rfl : i = j := by simpa [hs, ha] using hj
    simpa [hs] using hr data
  · exact fun _ h => absurd h hn
  · rintro - (⟨hret, hh⟩ | hl)
    · rw [hs, Session.prepare_retried] at hret
      have hd := hd hret hh
      obtain ⟨chunks, hb, ht⟩ := hb hret hd
      rw [hs, Session.prepare_replay, hret, hd, hb, ht]
      simp [ReplayBuffer.record_offered]
    · simp [hs] at hl
  · intro data hp
    simp only [hs, Session.prepare_phase, Session.Phase.writing.injEq, Bool.and_eq_true,
      Bool.not_eq_true', Bool.or_eq_false_iff] at hp
    obtain ⟨-, ⟨hret, hd⟩, hkept⟩ := hp
    obtain ⟨chunks, hb, ht⟩ := hb hret hd
    rw [hb, ReplayBuffer.record_offered] at hkept
    rw [ht]
    exact of_decide_eq_true hkept
  · intro data _ _ hp
    simp [hs] at hp

/-- A step of the session that takes no chunk. -/
theorem Books.onward (b : r.Books) (he : r'.engine = r.engine)
    (hn : r'.connections.length ≠ 0) (ht : passed .taken r'.flow = passed .taken r.flow)
    (ho : r.session.isOver = false) (hp : ∀ chunk, r'.session.phase ≠ .writing chunk true)
    (hk : r'.session.retried = false ∧ passed (.handedOut 0) r'.flow = [] ∨
        r'.session.phase = .leavingFirst →
      (r.session.retried = false ∧ passed (.handedOut 0) r.flow = [] ∨
        r.session.phase = .leavingFirst) ∧ r'.session.replay = r.session.replay)
    (hw : ∀ i, i < r'.connections.length →
      passed (.written i) r'.flow <+: owed r'.engine.replayLimit i r'.flow)
    (hc : ∀ i, r'.session.current? = some i → (∀ chunk, .refused i chunk ∉ r'.flow) →
      passed (.written i) r'.flow ++ r'.session.inHand = owed r'.engine.replayLimit i r'.flow)
    (hr : ∀ i chunk, r'.session.current? = some i → .refused i chunk ∈ r'.flow →
      (passed (.written i) r'.flow ++ r'.session.inHand).length <
        (owed r'.engine.replayLimit i r'.flow).length)
    (hs : ∀ chunk, r'.session.retried = false → r'.session.active = some 0 →
      r'.session.phase = .selecting → .refused 0 chunk ∈ r'.flow →
      (passed .taken r.flow).flatten.length ≤ r.engine.replayLimit) : r'.Books where
  written := hw
  current := hc
  refused := hr
  fresh _ h := absurd h hn
  kept _ h := by
    obtain ⟨h, heq⟩ := hk h
    rw [heq, ht, he]
    exact b.kept ho h
  keeping chunk h := absurd h (hp chunk)
  swallowed chunk h1 h2 h3 h4 := by
    rw [ht, he]
    exact hs chunk h1 h2 h3 h4

/-- A chunk that a connection refuses is missing from then on. -/
theorem Books.refuse {i : Nat} {chunk : Bytes} {s : Session} (b : r.Books)
    (hl : i < r.connections.length) (hc : r.session.current? = some i)
    (hi : r.session.inHand ≠ []) (hc' : s.current? = some i) (hi' : s.inHand = [])
    (ho : r.session.isOver = false) (hs : s.retried = r.session.retried)
    (hb : s.replay = r.session.replay) (hp : s.phase ≠ .leavingFirst)
    (hp' : ∀ chunk, s.phase ≠ .writing chunk true)
    (hk : s.phase = .selecting →
      (passed .taken r.flow).flatten.length ≤ r.engine.replayLimit) :
    ((r.after [.refused i chunk] false).withSession s).Books := by
  have hf : ∀ t, passed t (r.flow ++ [.refused i chunk]) = passed t r.flow := by
    intro t
    simp [Happening.at?, Happening.station?]
  have how : ∀ j, owed r.engine.replayLimit j (r.flow ++ [.refused i chunk]) =
      owed r.engine.replayLimit j r.flow := fun _ => owed_append rfl rfl
  refine b.onward rfl (Nat.ne_of_gt (Nat.zero_lt_of_lt hl)) (hf _) ho hp' ?_ ?_ ?_ ?_ ?_
  · simp [hp, hs, hb, hf]
    exact fun h h' => .inl ⟨h, h'⟩
  · intro j hj
    simpa [hf, how] using b.written j hj
  · intro j hj hm
    obtain rfl : i = j := by simpa [hc'] using hj
    exact absurd (by simp) (hm chunk)
  · intro j _ hj _
    obtain rfl : i = j := by simpa [hc'] using hj
    have hpos := List.length_pos_iff.mpr hi
    simp only [withSession_flow, after_flow, withSession_engine, after_engine,
      withSession_session, hf, how, hi', List.append_nil]
    by_cases hm : ∃ data, .refused i data ∈ r.flow
    · obtain ⟨data, hm⟩ := hm
      have := b.refused i data hc hm
      rw [List.length_append] at this
      omega
    · have := b.current i hc fun data hd => hm ⟨data, hd⟩
      rw [← this, List.length_append]
      omega
  · exact fun _ _ _ hsel _ => hk hsel

/-- A chunk that the session had in hand goes to the connection. -/
theorem Books.write {i : Nat} {chunk : Bytes} {c : Connection} {s : Session} (b : r.Books)
    (hf : r.Fits) (hg : r.connections[i]? = some c) (hw : c.writable = true)
    (hc : r.session.current? = some i) (hi : r.session.inHand = chunk :: s.inHand)
    (hc' : s.current? = some i) (ho : r.session.isOver = false)
    (hs : s.retried = r.session.retried) (hb : s.replay = r.session.replay)
    (hp : s.phase ≠ .leavingFirst) (hp' : ∀ chunk, s.phase ≠ .writing chunk true) :
    ((r.write i chunk).withSession s).Books := by
  have hl := (List.getElem?_eq_some_iff.mp hg).1
  -- A connection that takes chunks has not refused any.
  have hn : ∀ data, .refused i data ∉ r.flow := by
    intro data hm
    have := (hf.writeSide_of_connection hg).refused data hm
    simp [hw] at this
  have he := b.current i hc hn
  have hwr : ∀ j, j ≠ i →
      passed (.written j) (r.flow ++ [.written i chunk]) = passed (.written j) r.flow := by
    intro j hj
    simp [Happening.at?, Happening.station?, hj.symm]
  have hwi : passed (.written i) (r.flow ++ [.written i chunk]) ++ s.inHand =
      owed r.engine.replayLimit i (r.flow ++ [.written i chunk]) := by
    rw [owed_append rfl rfl, ← he, hi]
    simp [Happening.at?, Happening.station?]
  refine b.onward rfl ?_ ?_ ho hp' ?_ ?_ ?_ ?_ ?_
  · rw [withSession_connections, length_write_connections]
    exact Nat.ne_of_gt (Nat.zero_lt_of_lt hl)
  · simp [Happening.at?, Happening.station?]
  · simp [Happening.at?, Happening.station?, hp, hs, hb]
    exact fun h h' => .inl ⟨h, h'⟩
  · intro j hj
    by_cases hji : j = i
    · subst hji
      exact ⟨_, hwi⟩
    · simp only [withSession_flow, write_flow, withSession_engine, write_engine]
      rw [hwr j hji, owed_append rfl rfl]
      exact b.written j (by simpa using hj)
  · intro j hj _
    obtain rfl : i = j := by simpa [hc'] using hj
    exact hwi
  · intro j data hj hm
    obtain rfl : i = j := by simpa [hc'] using hj
    exact absurd (by simpa using hm) (hn data)
  · intro data _ ha hsel hm
    have ha : s.active = some 0 := ha
    have hsel : s.phase = .selecting := hsel
    obtain rfl : i = 0 := by simpa [Session.current?, Session.target?, ha, hsel, eq_comm] using hc'
    exact absurd (by simpa using hm) (hn data)

/-- The session goes on to its next stage with nothing new in hand. -/
theorem Books.stay (b : r.Books) (he : r'.engine = r.engine)
    (hn : r'.connections.length = r.connections.length) (hn0 : r.connections.length ≠ 0)
    (hf : r'.flow = r.flow) (ho : r.session.isOver = false)
    (hc : r'.session.current? = r.session.current?)
    (hi : r'.session.inHand = r.session.inHand) (hs : r'.session.retried = true)
    (hp : ∀ chunk, r'.session.phase ≠ .writing chunk true)
    (hk : r'.session.phase = .leavingFirst →
      (r.session.retried = false ∧ passed (.handedOut 0) r.flow = [] ∨
        r.session.phase = .leavingFirst) ∧ r'.session.replay = r.session.replay) : r'.Books := by
  refine b.onward he (hn ▸ hn0) (by rw [hf]) ho hp ?_ ?_ ?_ ?_ ?_
  · rintro (⟨hr, -⟩ | hl)
    · simp [hs] at hr
    · exact hk hl
  · rw [he, hn, hf]
    exact b.written
  · rw [he, hc, hf, hi]
    exact b.current
  · rw [he, hc, hf, hi]
    exact b.refused
  · intro _ hr
    simp [hs] at hr

/-! ### The steps of a session -/

/-- The first chunk is all that is owed to the first connection. -/
theorem Books.takeFirst {chunk : Bytes} {s : Session} (b : r.Books) (h : r.Shape) (hf : r.Fits)
    (hp : r.session.phase = .selecting) (hw : r.session.stage = .awaitingFirstChunk)
    (he : r'.engine = r.engine) (hn : r'.connections.length = 1)
    (hfl : r'.flow = r.flow ++ [.taken chunk] ++ [.opened 0 r.destination])
    (hs : r'.session = s.prepare false chunk) (ha : s.active = some 0)
    (hb : s.replay = r.session.replay) : r'.Books := by
  obtain ⟨hnone, -, -, hret⟩ := h.stands.of_awaiting hp hw
  have hov : r.session.isOver = false := by simp [Session.isOver, hp]
  have helse : Elsewhere 0 r.flow := hf.absent 0 (line?_eq_none_iff.mpr (by omega))
  have ht := b.fresh hov hnone
  have hh : passed (.handedOut 0) r.flow = [] := helse.passed_eq_nil (by simp)
  have hwr : passed (.written 0) r.flow = [] := helse.passed_eq_nil (by simp)
  have hk := b.kept hov (.inl ⟨hret, hh⟩)
  refine .of_prepare hs ha (by omega) ?_ ?_ ?_ ?_ ?_
  · intro j hj
    obtain rfl : j = 0 := by omega
    simp [hfl, hwr, Happening.at?, Happening.station?]
  · intro _
    simp [hfl, hwr, ht, Happening.at?, Happening.station?]
  · intro data hm
    have hm : .refused 0 data ∈ r.flow := by simpa [hfl] using hm
    exact absurd hm (helse.not_mem rfl)
  · exact fun _ _ => rfl
  · intro _ _
    refine ⟨[], ?_, by simp [hfl, ht, Happening.at?, Happening.station?]⟩
    rw [hb, hk, ht, he]

/-- A chunk is taken for the active connection. -/
theorem Books.takeNext {i : Nat} {chunk : Bytes} (b : r.Books) (h : r.Shape) (hf : r.Fits)
    (hp : r.session.phase = .selecting) (ha : r.session.active = some i) :
    ((r.after [.taken chunk] false).withSession
      (r.session.prepare (r.delivered i) chunk)).Books := by
  have hov : r.session.isOver = false := by simp [Session.isOver, hp]
  have hcu : r.session.current? = some i := by simp [Session.current?, Session.target?, hp, ha]
  have hih : r.session.inHand = [] := by simp [Session.inHand, hp]
  obtain ⟨hn, -, hi⟩ := h.stands.of_active (.inl hp) ha
  obtain ⟨c, hc, -⟩ := h.connection_of_current (.inl ha)
  have hd := hf.delivered_iff hc
  -- Of a fallback connection the history knows.
  have hopens : ∀ j, j < r.connections.length → j = 0 ∨ opensFallback r.flow = true := by
    intro j hj
    rw [h.opens]
    omega
  have htaken : ∀ j, j < r.connections.length →
      owed r.engine.replayLimit j (r.flow ++ [.taken chunk]) =
        owed r.engine.replayLimit j r.flow ++ [chunk] :=
    fun j hj => owed_append_taken (hopens j hj)
  have hlt : i < r.connections.length := by omega
  refine .of_prepare rfl ha (by simp [hn]) ?_ ?_ ?_ ?_ ?_
  · intro j hj
    have hj : j < r.connections.length := hj
    simp [htaken j hj, Happening.at?, Happening.station?]
    exact (b.written j hj).trans (List.prefix_append _ _)
  · intro hn
    have := b.current i hcu fun data hm => hn data (by simp [hm])
    simp [htaken i hlt, ← this, hih, Happening.at?, Happening.station?]
  · intro data hm
    have := b.refused i data hcu (by simpa using hm)
    simpa [htaken i hlt, hih, Happening.at?, Happening.station?] using this
  · intro hret hh
    obtain rfl : i = 0 := by simp [hi, hret]
    have hh : passed (.handedOut 0) r.flow = [] := by
      simpa [Happening.at?, Happening.station?] using hh
    simpa [hh] using hd
  · intro hret hn
    obtain rfl : i = 0 := by simp [hi, hret]
    have hh : passed (.handedOut 0) r.flow = [] := by simpa [hn] using hd
    exact ⟨_, b.kept hov (.inl ⟨hret, hh⟩), by simp [Happening.at?, Happening.station?]⟩

/-- What the buffer has kept is what is owed to the fallback connection. -/
theorem Books.openFallback (b : r.Books) (h : r.Shape) (hf : r.Fits)
    (hp : r.session.phase = .leavingFirst) (he : r'.engine = r.engine)
    (hn : r'.connections.length = 2) (hfl : r'.flow = r.flow ++ [.opened 1 r.fallback])
    (hs : r'.session.phase = .replaying 1 r.session.replay.chunks)
    (hr : r'.session.retried = r.session.retried) : r'.Books := by
  have hov : r.session.isOver = false := by simp [Session.isOver, hp]
  obtain ⟨hone, -, hret, -⟩ := h.stands.of_leavingFirst hp
  have hop : opensFallback r.flow = false := by
    rw [← Bool.not_eq_true, h.opens]
    omega
  have helse : Elsewhere 1 r.flow := hf.absent 1 (line?_eq_none_iff.mpr (by omega))
  have hw : passed (.written 1) r'.flow = [] := by
    simp [hfl, helse.passed_eq_nil, Happening.at?, Happening.station?]
  have ho : owed r'.engine.replayLimit 1 r'.flow = r.session.replay.chunks := by
    rw [he, hfl, owed_opened hop, b.kept hov (.inr hp)]
  have hcu : r'.session.current? = some 1 := by simp [Session.current?, Session.target?, hs]
  have hnr : r'.session.retried ≠ false := by simp [hr, hret]
  refine b.onward he (by omega) ?_ hov (by simp [hs]) ?_ ?_ ?_ ?_ ?_
  · simp [hfl, Happening.at?, Happening.station?]
  · simp [hnr, hs]
  · intro i hi
    obtain rfl | rfl : i = 0 ∨ i = 1 := by omega
    · simpa [hfl, Happening.at?, Happening.station?] using b.written 0 (by omega)
    · simp [hw]
  · intro i hi _
    obtain rfl : 1 = i := Option.some_inj.mp (hcu.symm.trans hi)
    simp [ho, hw, Session.inHand, hs]
  · intro i chunk hi hm
    obtain rfl : 1 = i := Option.some_inj.mp (hcu.symm.trans hi)
    have hm : .refused 1 chunk ∈ r.flow := by simpa [hfl] using hm
    exact absurd hm (helse.not_mem rfl)
  · exact fun _ hret => absurd hret hnr

theorem Step.books (s : r.Step r') (h : r.Shape) (hf : r.Fits) (hb : r.Books) : r'.Books := by
  have hst := h.stands
  cases s with
  | beside hl o =>
    obtain ⟨ho, ht, hw, hr⟩ := o.flow
    exact hb.quiet rfl (by simp) rfl ho ht hw hr rfl rfl rfl rfl
  | idle | abort | hearEnd =>
    exact hb.quiet (h := []) rfl (by simp) (by simp) rfl rfl (by simp) (by simp) rfl rfl rfl rfl
  | crash hp _ hw _ =>
    refine .of_over rfl rfl fun i hi => ?_
    have hn := (hst.of_awaiting hp hw).1
    simp [hn] at hi
  | finish | conclude | abandon =>
    refine .of_over rfl rfl fun i hi => ?_
    simpa using hb.written i (by simpa using hi)
  | takeFirst hp ho hw _ =>
    have hn := (hst.of_awaiting hp hw).1
    refine hb.takeFirst h hf hp hw rfl ?_ ?_ rfl ?_ rfl <;> simp [hn]
  | takeNext hp ho hw ha => exact hb.takeNext h hf hp ha
  | written hp ha hc hw hr =>
    have hcu : r.session.current? = r.session.active := by
      simp [Session.current?, Session.target?, hp]
    refine hb.write hf hc hw (hcu.trans ha) ?_ ?_ ?_ rfl rfl ?_ ?_
    all_goals simp [Session.inHand, Session.current?, Session.target?, Session.isOver, hp, ha]
  | replayed hp hc hw hr =>
    refine hb.write hf hc hw ?_ ?_ ?_ ?_ rfl rfl ?_ ?_
    all_goals simp [Session.inHand, Session.current?, Session.target?, Session.isOver, hp]
  | @writeKept i chunk _ hp ha hc _ =>
    have hl := (List.getElem?_eq_some_iff.mp hc).1
    refine hb.refuse hl ?_ ?_ ?_ ?_ ?_ rfl rfl ?_ ?_ fun _ => hb.keeping chunk hp
    all_goals simp [Session.inHand, Session.current?, Session.target?, Session.isOver, hp, ha]
  | replayStopped hp hc _ =>
    have hl := (List.getElem?_eq_some_iff.mp hc).1
    refine hb.refuse hl ?_ ?_ ?_ ?_ ?_ rfl rfl ?_ ?_ ?_
    all_goals simp [Session.inHand, Session.current?, Session.target?, Session.isOver, hp]
  | writeLost hp ha hc hw =>
    have hl := (List.getElem?_eq_some_iff.mp hc).1
    refine hb.onward rfl (by simp; grind) ?_ (by simp [Session.isOver, hp]) (by simp) ?_ ?_ ?_ ?_ ?_
    · simp [Happening.at?, Happening.station?]
    · simp [Happening.at?, Happening.station?]
      grind
    · intro j hj
      have := hb.written j (by simpa using hj)
      simpa [owed_append, Happening.at?, Happening.station?, Happening.opens] using this
    all_goals simp [Session.current?, Session.target?]
  | retry hp hk hj hph hr =>
    obtain ⟨hn, -, hk0⟩ := hst.of_pump (by simp [Session.isOver, hp]) hk
    obtain rfl : _ = 0 := by simpa [hr] using hk0
    have hh := hf.handedOut_of_ended h hj hph
    refine hb.stay rfl rfl (by omega) rfl ?_ ?_ ?_ rfl (by simp) fun _ => ⟨.inl ⟨hr, hh⟩, rfl⟩
    all_goals simp [Session.inHand, Session.current?, Session.target?, Session.isOver, hp]
  | openFallback hp hcl hc =>
    have hn := (hst.of_leavingFirst hp).1
    refine hb.openFallback h hf hp rfl ?_ ?_ ?_ rfl <;> simp [hn]
  | adopt hp hc hr =>
    obtain ⟨-, hn, -, hret, -⟩ := hst.of_replaying hp
    refine hb.stay rfl (by simp) (by omega) (by simp) ?_ ?_ ?_ hret (by simp) (by simp)
    all_goals simp [Session.inHand, Session.current?, Session.target?, Session.isOver, hp]

end Relay

end Tunnel
