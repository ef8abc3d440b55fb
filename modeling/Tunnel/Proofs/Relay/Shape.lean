import Tunnel.Proofs.Relay.Basic

/-!
# The shape of a relay

A session has no connection until the first chunk, then one with its pump, and then at most one
more, which gets its pump once the replay is over.

## Main definitions

* `Session.Stands` — how far a session is, by the numbers of its connections and pumps.
* `Relay.Shape` — this, and what connections and pumps have to do with it.

## Main statements

* `Relay.Step.shape` — a step keeps the shape.
-/

namespace Tunnel

/-- How far a session is that has opened `n` connections and started `m` pumps. -/
inductive Session.Stands (s : Session) (n m : Nat) : Prop
  /-- The first chunk is awaited. -/
  | waiting : n = 0 → m = 0 → s.phase = .selecting → s.stage = .awaitingFirstChunk →
      s.active = none → s.pump = none → s.retried = false → Stands s n m
  /-- Chunks go back and forth over the last connection. -/
  | relaying {i : Nat} : n = i + 1 → m = i + 1 → i = (if s.retried then 1 else 0) →
      s.stage ≠ .awaitingFirstChunk →
      (s.phase = .selecting ∨ s.active = some i ∧ ∃ chunk kept, s.phase = .writing chunk kept) →
      (s.active = some i ∨ s.active = none ∧ s.clientOpen = false) → s.pump = some i →
      Stands s n m
  /-- The outcome of the first connection is awaited. -/
  | leaving : n = 1 → m = 1 → s.retried = true → s.stage ≠ .awaitingFirstChunk →
      s.phase = .leavingFirst → (s.active = some 0 ∨ s.active = none ∧ s.clientOpen = false) →
      s.pump = none → Stands s n m
  /-- What was kept is written to the fallback connection. -/
  | replaying {rest : List Bytes} : n = 2 → m = 1 → s.retried = true →
      s.stage ≠ .awaitingFirstChunk → s.phase = .replaying 1 rest →
      (s.active = some 0 ∨ s.active = none ∧ s.clientOpen = false) → s.pump = none →
      Stands s n m
  /-- The task of the session is gone. -/
  | gone : s.isOver = true → s.active = none → m ≤ n → n ≤ m + 1 →
      n ≤ (if s.retried then 2 else 1) → Stands s n m

namespace Session.Stands

variable {s : Session} {n m i k : Nat}

/-- Of at most two connections all but the last have a pump, whatever the stage. -/
theorem bounds (h : s.Stands n m) : m ≤ n ∧ n ≤ m + 1 ∧ n ≤ if s.retried then 2 else 1 := by
  cases h with
  | waiting hn hm => simp [hn, hm]
  | relaying hn hm hi =>
    rw [hn, hm, hi]
    split <;> simp
  | leaving hn hm hr => simp [hn, hm, hr]
  | replaying hn hm hr => simp [hn, hm, hr]
  | gone _ _ hm hn hr => exact ⟨hm, hn, hr⟩

theorem le_two (h : s.Stands n m) : n ≤ 2 := h.bounds.2.2.trans (by split <;> decide)

/-- Only a session that gave up its first connection has two. -/
theorem retried_of_two (h : s.Stands n m) (hn : 2 ≤ n) : s.retried = true := by
  have hb := h.bounds.2.2
  cases hr : s.retried with
  | true => rfl
  | false =>
    rw [hr] at hb
    exact absurd (hn.trans hb) (by decide)

/-- A session that is over holds no connection. -/
theorem active_of_isOver (h : s.Stands n m) (ho : s.isOver = true) : s.active = none := by
  cases h with
  | waiting _ _ hp | leaving _ _ _ _ hp | replaying _ _ _ _ hp => simp [isOver, hp] at ho
  | relaying _ _ _ _ hp => rcases hp with hp | ⟨-, chunk, kept, hp⟩ <;> simp [isOver, hp] at ho
  | gone _ ha => exact ha

/-- Before the first chunk nothing is open. -/
theorem of_awaiting (h : s.Stands n m) (hp : s.phase = .selecting)
    (hw : s.stage = .awaitingFirstChunk) :
    n = 0 ∧ m = 0 ∧ s.active = none ∧ s.retried = false := by
  cases h with
  | waiting hn hm _ _ ha _ hr => exact ⟨hn, hm, ha, hr⟩
  | relaying _ _ _ hs => exact absurd hw hs
  | leaving _ _ _ hs => exact absurd hw hs
  | replaying _ _ _ hs => exact absurd hw hs
  | gone hov => simp [isOver, hp] at hov

/-- A session whose pump runs has gone as far as the pump's connection. -/
theorem of_pump (h : s.Stands n m) (ho : s.isOver = false) (hk : s.pump = some k) :
    n = k + 1 ∧ m = k + 1 ∧ k = if s.retried then 1 else 0 := by
  cases h with
  | waiting _ _ _ _ _ hk' => simp [hk] at hk'
  | relaying hn hm hi _ _ _ hk' =>
    obtain rfl := Option.some_inj.mp (hk.symm.trans hk')
    exact ⟨hn, hm, hi⟩
  | leaving _ _ _ _ _ _ hk' => simp [hk] at hk'
  | replaying _ _ _ _ _ _ hk' => simp [hk] at hk'
  | gone hov => simp [ho] at hov

theorem active_of_pump (h : s.Stands n m) (ho : s.isOver = false) (hk : s.pump = some k) :
    s.stage ≠ .awaitingFirstChunk ∧
      (s.active = some k ∨ s.active = none ∧ s.clientOpen = false) := by
  cases h with
  | waiting _ _ _ _ _ hk' => simp [hk] at hk'
  | relaying _ _ _ hs _ ha hk' =>
    obtain rfl := Option.some_inj.mp (hk.symm.trans hk')
    exact ⟨hs, ha⟩
  | leaving _ _ _ _ _ _ hk' => simp [hk] at hk'
  | replaying _ _ _ _ _ _ hk' => simp [hk] at hk'
  | gone hov => simp [ho] at hov

/-- No pump is missing while the session waits for one, but before the first chunk. -/
theorem of_no_pump (h : s.Stands n m) (hp : s.phase = .selecting) (hk : s.pump = none) :
    n = 0 ∧ m = 0 := by
  cases h with
  | waiting hn hm => exact ⟨hn, hm⟩
  | relaying _ _ _ _ _ _ hk' => simp [hk] at hk'
  | leaving _ _ _ _ hp' => simp [hp] at hp'
  | replaying _ _ _ _ hp' => simp [hp] at hp'
  | gone hov => simp [isOver, hp] at hov

/-- Chunks that are not replayed are for the last connection, whose pump runs. -/
theorem pump_eq_active (h : s.Stands n m)
    (hp : s.phase = .selecting ∨ ∃ chunk kept, s.phase = .writing chunk kept)
    (ha : s.active = some i) : s.pump = some i := by
  cases h with
  | waiting _ _ _ _ ha' => simp [ha] at ha'
  | relaying _ _ _ _ _ ha' hk =>
    obtain rfl : i = _ := by simpa [ha] using ha'
    exact hk
  | leaving _ _ _ _ hp' => simp [hp'] at hp
  | replaying _ _ _ _ hp' => simp [hp'] at hp
  | gone _ ha' => simp [ha] at ha'

theorem of_active (h : s.Stands n m)
    (hp : s.phase = .selecting ∨ ∃ chunk kept, s.phase = .writing chunk kept)
    (ha : s.active = some i) : n = i + 1 ∧ m = i + 1 ∧ i = if s.retried then 1 else 0 := by
  refine h.of_pump ?_ (h.pump_eq_active hp ha)
  rcases hp with hp | ⟨chunk, kept, hp⟩ <;> simp [isOver, hp]

/-- A session that still hears its client after the first chunk has a connection. -/
theorem active_of_clientOpen (h : s.Stands n m) (hp : s.phase = .selecting)
    (hw : s.stage ≠ .awaitingFirstChunk) (ho : s.clientOpen = true) : ∃ i, s.active = some i := by
  cases h with
  | waiting _ _ _ hs => exact absurd hs hw
  | relaying _ _ _ _ _ ha => exact ⟨_, by simpa [ho] using ha⟩
  | leaving _ _ _ _ _ ha => exact ⟨_, by simpa [ho] using ha⟩
  | replaying _ _ _ _ _ ha => exact ⟨_, by simpa [ho] using ha⟩
  | gone hov => simp [isOver, hp] at hov

theorem active_of_writing {chunk : Bytes} {kept : Bool} (h : s.Stands n m)
    (hp : s.phase = .writing chunk kept) : ∃ i, s.active = some i := by
  cases h with
  | waiting _ _ hp' => simp [hp] at hp'
  | relaying _ _ _ _ ha => exact ⟨_, by simpa [hp] using ha⟩
  | leaving _ _ _ _ hp' => simp [hp] at hp'
  | replaying _ _ _ _ hp' => simp [hp] at hp'
  | gone hov => simp [isOver, hp] at hov

/-- The first connection is left with its pump started and no other. -/
theorem of_leavingFirst (h : s.Stands n m) (hp : s.phase = .leavingFirst) :
    n = 1 ∧ m = 1 ∧ s.retried = true ∧ s.stage ≠ .awaitingFirstChunk ∧
      (s.active = some 0 ∨ s.active = none ∧ s.clientOpen = false) ∧ s.pump = none := by
  cases h with
  | waiting _ _ hp' => simp [hp] at hp'
  | relaying _ _ _ _ hp' => simp [hp] at hp'
  | leaving hn hm hr hs _ ha hk => exact ⟨hn, hm, hr, hs, ha, hk⟩
  | replaying _ _ _ _ hp' => simp [hp] at hp'
  | gone hov => simp [isOver, hp] at hov

/-- A replay goes to the fallback connection, which has no pump yet. -/
theorem of_replaying {rest : List Bytes} (h : s.Stands n m) (hp : s.phase = .replaying i rest) :
    i = 1 ∧ n = 2 ∧ m = 1 ∧ s.retried = true ∧ s.stage ≠ .awaitingFirstChunk ∧
      (s.active = some 0 ∨ s.active = none ∧ s.clientOpen = false) := by
  cases h with
  | waiting _ _ hp' => simp [hp] at hp'
  | relaying _ _ _ _ hp' => simp [hp] at hp'
  | leaving _ _ _ _ hp' => simp [hp] at hp'
  | replaying hn hm hr hs hp' ha =>
    obtain ⟨rfl, -⟩ := Session.Phase.replaying.inj (hp.symm.trans hp')
    exact ⟨rfl, hn, hm, hr, hs, ha⟩
  | gone hov => simp [isOver, hp] at hov

end Session.Stands

namespace Relay

/-- The parts of a relay fit together. -/
structure Shape (r : Relay) : Prop where
  stands : r.session.Stands r.connections.length r.pumps.length
  pumps : ∀ k p, r.pumps[k]? = some p → p.connection = k ∧ (p.closesClient = true ↔ k = 1)
  /-- The connections that the session still needs are not dropped. -/
  held : ∀ i c, (r.session.active = some i ∨ r.session.current? = some i) →
    r.connections[i]? = some c → c.discarded = false
  cancelled : r.cancelled = true → r.requested = true
  /-- A session loses its active connection only with the client's chunks. -/
  lost : r.session.isOver = false → r.session.active = none → r.connections ≠ [] →
    r.requested = true
  canOpen : r.connections ≠ [] → r.CanOpen
  opens : opensFallback r.flow = true ↔ 2 ≤ r.connections.length

variable {r r' : Relay}

/-- No more pumps than connections. -/
theorem Shape.pumps_le (h : r.Shape) : r.pumps.length ≤ r.connections.length :=
  h.stands.bounds.1

theorem Shape.connection_of_pump {k : Nat} {p : Pump} (h : r.Shape) (hp : r.pumps[k]? = some p) :
    ∃ c, r.connections[k]? = some c := by
  have hk := (List.getElem?_eq_some_iff.mp hp).1
  exact ⟨_, List.getElem?_eq_getElem (hk.trans_le h.pumps_le)⟩

/-- The connections that the session still needs exist and are not dropped. -/
theorem Shape.connection_of_current {i : Nat} (h : r.Shape)
    (hi : r.session.active = some i ∨ r.session.current? = some i) :
    ∃ c, r.connections[i]? = some c ∧ c.discarded = false := by
  have hs := h.stands
  have hl : i < r.connections.length := by
    grind [Session.Stands, Session.current?, Session.target?, Session.isOver]
  have hc := List.getElem?_eq_getElem hl
  exact ⟨_, hc, h.held i _ hi hc⟩

theorem Step.stands (s : r.Step r') (h : r.Shape) :
    r'.session.Stands r'.connections.length r'.pumps.length := by
  have hs := h.stands
  cases s with
  | beside _ _ | idle => simpa using hs
  -- The session stays where it is.
  | abort | hearEnd | takeNext | written | writeKept | writeLost | replayed | replayStopped =>
    simp
    grind [Session.Stands, Session.isOver, Session.prepare]
  -- It goes on to the next stage.
  | takeFirst hp _ hw _ =>
    obtain ⟨hn, hm, -, hr⟩ := hs.of_awaiting hp hw
    refine .relaying (i := 0) ?_ ?_ ?_ ?_ (.inr ?_) (.inl ?_) ?_
    all_goals simp [hn, hm, hr]
  | retry hp hk _ _ hr =>
    have ho : r.session.isOver = false := by simp [Session.isOver, hp]
    obtain ⟨hn, hm, hk0⟩ := hs.of_pump ho hk
    obtain rfl : _ = 0 := by simpa [hr] using hk0
    exact .leaving hn hm rfl (by simp) rfl (hs.active_of_pump ho hk).2 rfl
  | openFallback hp _ _ =>
    obtain ⟨hn, hm, hr, hs, ha, hk⟩ := hs.of_leavingFirst hp
    have hn' : r.connections.length + 1 = 2 := by rw [hn]
    exact .replaying (by simpa using hn') (by simpa using hm) hr hs (by rw [hn]; rfl) ha hk
  | adopt hp _ _ =>
    obtain ⟨rfl, hn, hm, hr, hs, -⟩ := hs.of_replaying hp
    refine .relaying (i := 1) ?_ ?_ ?_ hs (.inl rfl) (.inl rfl) ?_
    all_goals simp [hn, hm, hr]
  -- It ends.
  | crash | finish | conclude | abandon =>
    have hb := hs.bounds
    refine .gone rfl rfl (by simpa using hb.1) (by simpa using hb.2.1) ?_
    simpa [Session.gone, Session.concluded] using hb.2.2

theorem Step.pumps (s : r.Step r') (h : r.Shape) :
    ∀ k p, r'.pumps[k]? = some p → p.connection = k ∧ (p.closesClient = true ↔ k = 1) := by
  have hs := h.stands
  have hp := h.pumps
  cases s with
  | @beside i l l' _ _ hl o =>
    intro k p hk
    rw [after_pumps, getElem?_setLine_pumps hl o.pump_isSome] at hk
    have hf := o.frame.2.2
    have hi := (line?_eq_some_iff.mp hl).2
    by_cases hki : k = i
    · rw [if_pos hki] at hk
      rw [hk, ← hi, Option.map_some, eq_comm, Option.map_eq_some_iff] at hf
      obtain ⟨p', hp', he⟩ := hf
      simp only [Prod.mk.injEq] at he
      have := hp i p' hp'
      grind
    · rw [if_neg hki] at hk
      exact hp k p hk
  | takeFirst hq _ hw _ =>
    obtain ⟨hn, hm, -, -⟩ := hs.of_awaiting hq hw
    simp
    grind
  | adopt hq _ _ =>
    obtain ⟨rfl, -, hm, -⟩ := hs.of_replaying hq
    simp
    grind
  | _ => simpa using hp

theorem Step.held (s : r.Step r') (h : r.Shape) :
    ∀ i c, (r'.session.active = some i ∨ r'.session.current? = some i) →
      r'.connections[i]? = some c → c.discarded = false := by
  have hs := h.stands
  have hh := h.held
  cases s with
  | @beside i l l' _ _ hl o =>
    intro j c hj hc
    rw [after_connections, getElem?_setLine_connections hl] at hc
    by_cases hji : j = i
    · obtain rfl : l'.connection = c := by simpa [hji] using hc
      rw [o.frame.2.1]
      exact hh j _ hj (hji ▸ (line?_eq_some_iff.mp hl).1)
    · exact hh j c hj (by simpa [hji] using hc)
  | idle => exact hh
  | abort | hearEnd | takeNext | writeKept | retry | replayStopped =>
    simp
    grind [Session.current?, Session.target?, Session.prepare]
  | written hp _ _ _ _ | replayed hp _ _ _ =>
    intro j c hj hc
    simp [getElem?_write_connections] at hj hc
    grind [Session.current?, Session.target?]
  | takeFirst hp _ hw _ =>
    have hn := (hs.of_awaiting hp hw).1
    intro j c hj hc
    simp [getElem?_pumping_connections, getElem?_opening_connections] at hj hc
    grind [Session.current?, Session.target?, Session.prepare, Connection.fresh]
  | openFallback hp _ _ =>
    have hn : r.session.current? = r.session.active := by
      simp [Session.current?, Session.target?, hp]
    intro j c hj hc
    simp [getElem?_opening_connections, getElem?_modify_connections] at hj hc
    grind [Session.current?, Session.target?, Connection.fresh, Connection.takeClosed]
  | @adopt i _ hp _ _ =>
    have hcu : r.session.current? = some i := by simp [Session.current?, Session.target?, hp]
    obtain ⟨rfl, -, -, -, -, ha⟩ := hs.of_replaying hp
    have ha : r.session.active ≠ some 1 := by rcases ha with ha | ha <;> simp [ha]
    intro j c hj hc
    simp [getElem?_modify_connections, getElem?_pumping_connections] at hj hc
    grind [Session.current?, Session.target?, Connection.takeClosed]
  | writeLost | crash | finish | conclude | abandon =>
    simp [Session.gone, Session.concluded, Session.current?, Session.target?]

theorem Step.cancelled (s : r.Step r') (h : r.Shape) :
    r'.cancelled = true → r'.requested = true := by
  have hc := h.cancelled
  cases s with
  | idle => exact hc
  | _ => simp; grind

theorem Step.lost (s : r.Step r') (h : r.Shape) :
    r'.session.isOver = false → r'.session.active = none → r'.connections ≠ [] →
      r'.requested = true := by
  have hc := h.cancelled
  have hl := h.lost
  have hs := h.stands
  simp only [ne_eq, ← List.length_eq_zero_iff] at hl ⊢
  cases s with
  | crash | finish | conclude | abandon => simp [Session.gone, Session.concluded, Session.isOver]
  | takeFirst | adopt => simp
  | writeLost =>
    simp
    grind
  | _ =>
    simp
    grind [Session.isOver, Session.prepare, Session.Stands]

theorem Step.canOpen (s : r.Step r') (h : r.Shape) : r'.connections ≠ [] → r'.CanOpen := by
  have hc := h.canOpen
  simp only [ne_eq, ← List.length_eq_zero_iff] at hc ⊢
  cases s with
  | takeFirst _ _ _ hn | openFallback _ _ hn => exact fun _ => hn
  | _ => simpa [CanOpen] using hc

theorem Step.opens (s : r.Step r') (h : r.Shape) :
    opensFallback r'.flow = true ↔ 2 ≤ r'.connections.length := by
  have ho := h.opens
  have hs := h.stands
  cases s with
  | beside _ o => simpa [o.flow.1] using ho
  | takeFirst hp _ hw _ =>
    have hn := (hs.of_awaiting hp hw).1
    simpa [Happening.opens, hn] using ho
  | openFallback hp _ _ =>
    have hn := (hs.of_leavingFirst hp).1
    simp [Happening.opens, hn]
  | _ => simpa [Happening.opens] using ho

theorem Step.shape (s : r.Step r') (h : r.Shape) : r'.Shape where
  stands := s.stands h
  pumps := s.pumps h
  held := s.held h
  cancelled := s.cancelled h
  lost := s.lost h
  canOpen := s.canOpen h
  opens := s.opens h

theorem shape_start {σ : Type} (engine : Engine) (d : Destination) (client : σ)
    (eventCapacity : Nat) (peers : List Peer) :
    (World.start engine d client eventCapacity peers).relay.Shape := by
  constructor
  · exact .waiting rfl rfl rfl rfl rfl rfl rfl
  all_goals simp [World.start, World.relay, World.history]

end Relay

end Tunnel
