import Tunnel.Proofs.Streams

/-!
# Overlapping streams

The first connection stays the active one until the whole replay is in the queue of the fallback
connection. Its read loop has ended by then, but its write loop goes on with what it still has. So
the streams of both connections are held while a replay is stalled; otherwise the opening of the
fallback connection is the end of the first connection's stream.

## Main definitions

* `World.Lingers` — the first connection still writes while the replay is stalled.

## Main statements

* `Line.Touches.stopped` — a driver that is gone does not come back.
* `World.streams_iff` — exactly when at most one stream is held at rest, and when the first
  connection's stream is gone for good.
-/

namespace Tunnel

/-! ### Drivers that are gone -/

namespace Connection

variable {c : Connection}

/-- A connection holds its stream from the answer to its dial to the end of its driver. -/
theorem isSome_stream?_iff : c.stream?.isSome ↔ c.decided = true ∧ c.driver ≠ .stopped := by
  cases h : c.driver <;> simp [decided, stream?, h]

theorem not_stopped_of_writable (hw : c.writable = true) : c.driver ≠ .stopped := by
  intro hd
  simp [writable, hd] at hw

end Connection

theorem Line.Touches.stopped {i : Nat} {l l' : Line} {h : List Happening} (t : l.Touches i l' h)
    (hs : l.connection.driver = .stopped) :
    l'.connection.driver = .stopped ∧ passed (.accepted i) h = [] := by
  induction t with
  | none he => exact ⟨hs, he.passed_eq_nil (by simp)⟩
  | elsewhere _ he ih => simpa [he.passed_eq_nil] using ih
  | touch _ t ih =>
    obtain ⟨hs', hn⟩ := ih
    cases t with
    | own o =>
      cases o with
      | drive d =>
        obtain ⟨hd, rfl⟩ := d.stopped hs'
        exact ⟨hd, by simpa using hn⟩
      | fail _ _ _ hc =>
        rcases hc with rfl | rfl <;>
          simp [hs', hn, Connection.dropReader, Happening.at?, Happening.station?]
      | _ => simp [hs', hn, Connection.dropReader, Happening.at?, Happening.station?]
    | _ => simp [hs', hn, Connection.takeClosed, Happening.at?, Happening.station?]

/-- In a relay too. -/
theorem Relay.Step.stopped {r r' : Relay} {i : Nat} (s : r.Step r') (h : r.Shape)
    (hs : ∃ c, r.connections[i]? = some c ∧ c.driver = .stopped) :
    (∃ c, r'.connections[i]? = some c ∧ c.driver = .stopped) ∧
      passed (.accepted i) r'.flow = passed (.accepted i) r.flow := by
  obtain ⟨c, hc, hs⟩ := hs
  obtain ⟨f, e⟩ := s.evolves h
  obtain ⟨l', hl', t⟩ := e.line i ⟨c, r.pumps[i]?⟩ (line?_eq_some_iff.mpr ⟨hc, rfl⟩)
  obtain ⟨hd, hn⟩ := t.stopped hs
  exact ⟨⟨l'.connection, (line?_eq_some_iff.mp hl').1, hd⟩, by simp [e.flow, hn]⟩

namespace World

variable {σ : Type} {w w' : World σ} {i : Nat} {c : Connection}

/-- Whatever happens later, a driver that is gone lets nothing more through. -/
theorem accepted_of_stopped [ClientChannel σ] {moves : List (Move σ)} (h : w.run? moves = some w')
    (hs : w.relay.Sound) (hc : w.transport.connections[i]? = some c) (hd : c.driver = .stopped) :
    passed (.accepted i) w'.history = passed (.accepted i) w.history := by
  have hkeep : ∀ r r' : Relay, r.Sound → r.Step r' →
      (∃ c, r.connections[i]? = some c ∧ c.driver = .stopped) ∧
        passed (.accepted i) r.flow = passed (.accepted i) w.relay.flow →
      (∃ c, r'.connections[i]? = some c ∧ c.driver = .stopped) ∧
        passed (.accepted i) r'.flow = passed (.accepted i) w.relay.flow := by
    rintro r r' hr s ⟨hgone, hp⟩
    obtain ⟨hgone', hp'⟩ := s.stopped hr.shape hgone
    exact ⟨hgone', hp'.trans hp⟩
  simpa using (keep_of_moves hkeep h hs ⟨⟨c, hc, hd⟩, rfl⟩).2.2

/-! ### Both connections at once -/

/-- The session waits in its replay, and the write loop of the first connection goes on. -/
def Lingers (w : World σ) : Prop :=
  w.Stalled ∧ ∃ c, w.transport.connections[0]? = some c ∧ c.writable = true

/-- A session that has given up its first connection has nothing more to read from it. -/
theorem not_readable_of_retried (hs : w.relay.Sound) (hr : w.session.retried = true)
    (hc : w.transport.connections[0]? = some c) : c.readable = false := by
  obtain ⟨p, hp, he⟩ := hs.messages.retired hr
  exact ((hs.fits.readSide_of_pump hc hp).finished p false rfl (.inr he)).2.1

theorem streams_length_le_one (hs : w.relay.Sound) : w.streams.length ≤ 1 ↔
    ¬∃ c c', w.transport.connections[0]? = some c ∧ w.transport.connections[1]? = some c' ∧
      c.stream?.isSome ∧ c'.stream?.isSome := by
  have hlen : w.transport.connections.length ≤ 2 := hs.shape.stands.le_two
  unfold streams
  generalize w.transport.connections = connections at hlen ⊢
  rcases connections with _ | ⟨c, _ | ⟨c', _ | ⟨c'', rest⟩⟩⟩
  · simp
  · cases h : c.stream? <;> simp [h]
  · cases h : c.stream? <;> cases h' : c'.stream? <;> simp [h, h']
  · simp at hlen

variable [ClientChannel σ]

/-- At rest, the first connection's driver is gone once the fallback connection is open, unless the
first connection lingers. -/
theorem Quiescent.first_stopped (hq : w.Quiescent) (hs : w.relay.Sound)
    (h2 : 2 ≤ w.transport.connections.length) (hc : w.transport.connections[0]? = some c)
    (hl : ¬w.Lingers) : c.driver = .stopped := by
  by_cases hd : c.discarded = true
  · exact hq.driver_stopped hc hd
  have hheld : w.session.active = some 0 ∨ w.session.target? = some 0 :=
    hs.openings.discarded 0 c hc (by simpa using hd)
  cases hs.shape.stands with
  | waiting hn | leaving hn => exact absurd (hn ▸ h2) (by decide)
  | relaying _ _ _ _ hph =>
    -- Only the last connection is active, and none is replayed onto.
    have hp : w.session.phase = .selecting ∨ ∃ chunk kept, w.session.phase = .writing chunk kept :=
      hph.imp_right And.right
    have ht : w.session.target? ≠ some 0 := by
      rcases hp with hp | ⟨chunk, kept, hp⟩ <;> simp [Session.target?, hp]
    have hn : w.transport.connections.length = 1 :=
      (hs.shape.stands.of_active hp (hheld.resolve_right ht)).1
    exact absurd (hn ▸ h2) (by decide)
  | gone hov => exact absurd (discarded_of_isOver hs hov hc) hd
  | replaying _ _ hr _ hp =>
    have hw : c.writable = false := by
      by_contra hw
      exact hl ⟨hq.stalled hs hp, c, hc, by simpa using hw⟩
    obtain ⟨p, hp, -⟩ := hs.messages.retired hr
    exact (hs.fits.draining_of_pump hc hp).halted (not_readable_of_retried hs hr hc) hw

variable {engine : Engine} {d : Destination} {client : σ} {eventCapacity : Nat}
  {peers : List Peer} {moves : List (Move σ)}

/-- At rest, at most one stream is held exactly if not both the first connection lingers and the
fallback connection's dial was answered. Once the fallback connection is open, the first one's
stream is gone, and accepts no byte whatever happens later, exactly if the first connection does
not linger. -/
theorem streams_iff (h : (start engine d client eventCapacity peers).run? moves = some w)
    (hq : w.Quiescent) :
    (w.streams.length ≤ 1 ↔
      ¬(w.Lingers ∧ ∃ c, w.transport.connections[1]? = some c ∧ c.decided = true)) ∧
    (opensFallback w.history = true → ∀ c, w.transport.connections[0]? = some c →
      ((c.driver = .stopped ∧ ∀ later w', w.run? later = some w' →
        passed (.accepted 0) w'.history = passed (.accepted 0) w.history) ↔ ¬w.Lingers)) := by
  have hs := sound_of_run h
  refine ⟨?_, fun ho c hc => ⟨?_, fun hl => ?_⟩⟩
  · rw [streams_length_le_one hs, not_iff_not]
    constructor
    · rintro ⟨c, c', hc, hc', hh, hh'⟩
      have h2 : 2 ≤ w.transport.connections.length := (List.getElem?_eq_some_iff.mp hc').1
      refine ⟨?_, c', hc', (Connection.isSome_stream?_iff.mp hh').1⟩
      by_contra hl
      exact (Connection.isSome_stream?_iff.mp hh).2 (hq.first_stopped hs h2 hc hl)
    · rintro ⟨⟨⟨⟨rest, hp⟩, c', hc', hw', -⟩, c, hc, hw⟩, c'', hc'', hd⟩
      obtain rfl : c' = c'' := Option.some.inj (hc'.symm.trans hc'')
      have hr := (hs.shape.stands.of_replaying hp).2.2.2.1
      have hdec := Connection.decided_of_not_readable (not_readable_of_retried hs hr hc)
      exact ⟨c, c', hc, hc',
        Connection.isSome_stream?_iff.mpr ⟨hdec, Connection.not_stopped_of_writable hw⟩,
        Connection.isSome_stream?_iff.mpr ⟨hd, Connection.not_stopped_of_writable hw'⟩⟩
  · rintro ⟨hd, -⟩ ⟨-, c', hc', hw⟩
    obtain rfl : c = c' := Option.some.inj (hc.symm.trans hc')
    exact Connection.not_stopped_of_writable hw hd
  · have h2 : 2 ≤ w.transport.connections.length := by
      rw [← opensFallback_relay_flow] at ho
      exact hs.shape.opens.mp ho
    have hd := hq.first_stopped hs h2 hc hl
    exact ⟨hd, fun later w' hrun => accepted_of_stopped hrun hs hc hd⟩

/-- The first connection ends without a byte, and its successor takes over. -/
def replaced : Option (World ScriptedClient) :=
  (start { fallbackHost := "fallback" } { host := "first", port := 80 } {} 8
    [⟨.accepted, {}⟩, ⟨.accepted, {}⟩]).run?
    [.event (.message [1]), .session .take, .session .resume, .driver 0 .dial, .driver 0 .connect,
      .driver 0 .write, .driver 0 .write, .outside (.peer 0 ⟨.accepted, { ends := true }⟩),
      .driver 0 .read, .pump 0, .session .join, .session .resume, .session .resume,
      .session .resume, .driver 0 .discard, .driver 1 .dial, .driver 1 .connect, .driver 1 .write,
      .driver 1 .write]

theorem streams_iff_replaced : ∃ w, replaced = some w ∧ w.Quiescent ∧ w.streams.length ≤ 1 ∧
    w.streams = [1] ∧ ∃ c, w.transport.connections[0]? = some c ∧ c.driver = .stopped ∧
      ∀ later w', w.run? later = some w' → passed (.accepted 0) w'.history = [[1]] := by
  have hrun : replaced.map (fun w => (decide w.Quiescent, w.session.phase, w.streams,
      opensFallback w.history, passed (.accepted 0) w.history,
      (w.transport.connections[0]?).isSome)) =
    some (true, .selecting, [1], true, [[1]], true) := by rfl
  obtain ⟨w, hw, he⟩ := Option.map_eq_some_iff.mp hrun
  simp only [Prod.mk.injEq, decide_eq_true_eq] at he
  obtain ⟨hq, hph, hstreams, ho, ha, hc⟩ := he
  obtain ⟨c, hc⟩ := Option.isSome_iff_exists.mp hc
  have hl : ¬w.Lingers := by
    rintro ⟨⟨⟨rest, hp⟩, -⟩, -⟩
    simp [hph] at hp
  obtain ⟨hle, hfirst⟩ := streams_iff hw hq
  obtain ⟨hd, hn⟩ := (hfirst ho c hc).mpr hl
  exact ⟨w, hw, hq, hle.mpr fun h => hl h.1, hstreams, c, hc, hd,
    fun later w' hr => (hn later w' hr).trans ha⟩

/-- The first connection has two chunks yet to write when its remote ends, the queue has room for
one chunk, and the fallback connection's stream blocks; then `moves` follow. -/
def lingeringThen (moves : List (Move ScriptedClient)) : Option (World ScriptedClient) :=
  (start { fallbackHost := "fallback", capacity := 1 } { host := "first", port := 80 } {} 8
    [⟨.accepted, {}⟩, ⟨.accepted, { writes := .blocks }⟩]).run?
    ([.event (.message [1]), .session .take, .session .resume, .driver 0 .dial, .driver 0 .connect,
        .driver 0 .write, .driver 0 .write, .outside (.peer 0 ⟨.accepted, { writes := .blocks }⟩),
        .event (.message [2]), .session .take, .session .resume, .driver 0 .write,
        .event (.message [3]), .session .take, .session .resume,
        .outside (.peer 0 ⟨.accepted, { writes := .blocks, ends := true }⟩), .driver 0 .read,
        .pump 0, .session .join, .session .resume, .session .resume, .driver 1 .dial,
        .driver 1 .connect, .driver 1 .write, .session .resume] ++ moves)

/-- The first connection's stream blocks no more. -/
def lateWrites : List (Move ScriptedClient) :=
  [.outside (.peer 0 ⟨.accepted, {}⟩), .driver 0 .write, .driver 0 .write, .driver 0 .write]

/-- Two streams are held, and the first one accepts bytes after the fallback connection was
opened. -/
theorem lingering_accepts :
    (∃ w, lingeringThen [] = some w ∧ w.Quiescent ∧ opensFallback w.history = true ∧
      w.streams = [0, 1] ∧ passed (.accepted 0) w.history = [[1]]) ∧
    ∃ w, lingeringThen lateWrites = some w ∧ w.Quiescent ∧ w.streams = [0, 1] ∧
      passed (.accepted 0) w.history = [[1], [2], [3]] := by
  constructor
  · have hrun : (lingeringThen []).map (fun w => (decide w.Quiescent, opensFallback w.history,
        w.streams, passed (.accepted 0) w.history)) = some (true, true, [0, 1], [[1]]) := by rfl
    obtain ⟨w, hw, he⟩ := Option.map_eq_some_iff.mp hrun
    simp only [Prod.mk.injEq, decide_eq_true_eq] at he
    exact ⟨w, hw, he⟩
  · have hrun : (lingeringThen lateWrites).map (fun w => (decide w.Quiescent, w.streams,
        passed (.accepted 0) w.history)) = some (true, [0, 1], [[1], [2], [3]]) := by rfl
    obtain ⟨w, hw, he⟩ := Option.map_eq_some_iff.mp hrun
    simp only [Prod.mk.injEq, decide_eq_true_eq] at he
    exact ⟨w, hw, he⟩

end World

end Tunnel
