import Tunnel.Proofs.Relay.Shape

/-!
# The connections of a session

Which connections a session has opened, and which of them it still holds.

## Main definitions

* `opened` — where the connections go that were opened, in order.
* `Relay.Openings` — what is known of them.

## Main statements

* `Relay.Step.openings` — a step keeps this.
-/

namespace Tunnel

/-- Where the connection goes that is opened. -/
def Happening.opened? : Happening → Option Destination
  | .opened _ d => some d
  | _ => none

/-- Where the connections go that were opened, in order. -/
def opened (h : List Happening) : List Destination := h.filterMap Happening.opened?

section opened

variable {e : Happening} {h h' : List Happening}

@[simp] theorem opened_nil : opened [] = [] := rfl

@[simp] theorem opened_cons : opened (e :: h) = e.opened?.toList ++ opened h := by
  unfold opened
  cases he : e.opened? <;> simp [he]

@[simp] theorem opened_append : opened (h ++ h') = opened h ++ opened h' := List.filterMap_append

theorem opened_filter_concernsData : opened (h.filter Happening.concernsData) = opened h := by
  induction h with
  | nil => rfl
  | cons e h ih =>
    by_cases he : e.concernsData
    · simp [he, ih]
    · have hn : e.opened? = none := by cases e <;> first | rfl | exact absurd rfl he
      simp [he, ih, hn]

end opened

theorem Line.Own.opened {i : Nat} {l l' : Line} {h : List Happening} {asks : Bool}
    (o : l.Own i l' h asks) : opened h = [] := by
  cases o with
  | drive d => cases d <;> simp [Happening.opened?]
  | fail _ _ _ hc => rcases hc with rfl | rfl <;> simp [Happening.opened?]
  | finish | send | crash | failRead | settle => simp [Happening.opened?]

namespace Relay

/-- What is known of the connections of a session. -/
structure Openings (r : Relay) : Prop where
  opened : opened r.flow = [r.destination, r.fallback].take r.connections.length
  taken : r.connections ≠ [] → passed .taken r.flow ≠ []
  untaken : r.connections = [] → r.session.phase ≠ .crashed → passed .taken r.flow = []
  /-- Before the first chunk, a session asks for the close of the client only when it hears no
  more. -/
  unopened : r.connections = [] → r.requested = true →
    r.session.clientOpen = false ∨ r.session.isOver = true
  /-- A session that gives up its first connection goes over to the fallback. -/
  retried : r.session.retried = true → r.connections.length = 2 ∨
    r.session.phase = .leavingFirst ∨ r.session.phase = .aborted
  crashed : r.session.phase = .crashed → ¬r.CanOpen
  /-- A session that reports has started all its pumps, and reports no request that was not made. -/
  ended : ∀ report, r.session.phase = .ended report → r.pumps.length = r.connections.length ∧
    (report.closeRequested = true → r.requested = true)
  /-- All but the active connection and the one that gets the replay are dropped. -/
  discarded : ∀ i c, r.connections[i]? = some c → c.discarded = false →
    r.session.active = some i ∨ r.session.target? = some i

variable {r r' : Relay}

/-- The destinations never change. -/
theorem Step.destinations_eq (s : r.Step r') :
    r'.destination = r.destination ∧ r'.fallback = r.fallback := by
  cases s <;> exact ⟨rfl, rfl⟩

theorem Step.opened (s : r.Step r') (h : r.Shape) (o : r.Openings) :
    opened r'.flow = [r'.destination, r'.fallback].take r'.connections.length := by
  have ho := o.opened
  have hs := h.stands
  rw [s.destinations_eq.1, s.destinations_eq.2]
  cases s with
  | beside hl hown => simpa [hown.opened] using ho
  | takeFirst hp _ hw _ =>
    have hn := (hs.of_awaiting hp hw).1
    simp [ho, hn, Happening.opened?]
  | openFallback hp _ _ =>
    have hn := (hs.of_leavingFirst hp).1
    simp [ho, hn, Happening.opened?]
  | _ => simpa [Happening.opened?] using ho

theorem Step.taken (s : r.Step r') (h : r.Shape) (o : r.Openings) :
    r'.connections ≠ [] → passed .taken r'.flow ≠ [] := by
  have ht := o.taken
  have hs := h.stands
  simp only [ne_eq, ← List.length_eq_zero_iff] at ht ⊢
  cases s with
  | openFallback hp _ _ =>
    have hn := (hs.of_leavingFirst hp).1
    simp
    grind
  | takeFirst | takeNext | crash => simp [Happening.at?, Happening.station?]
  | _ =>
    simp
    grind

theorem Step.untaken (s : r.Step r') (h : r.Shape) (o : r.Openings) :
    r'.connections = [] → r'.session.phase ≠ .crashed → passed .taken r'.flow = [] := by
  have ht := o.untaken
  have hs := h.stands
  simp only [← List.length_eq_zero_iff] at ht ⊢
  cases s with
  | beside hl hown => simpa [hown.flow.2.1] using ht
  | idle | abort => simpa using ht
  | takeFirst | openFallback => simp
  | crash => exact fun _ hn => absurd rfl hn
  | takeNext hp _ _ ha =>
    have hn := (hs.of_active (.inl hp) ha).1
    simp [hn]
  | hearEnd hp | written hp | writeKept hp | writeLost hp | retry hp | replayed hp
  | replayStopped hp | adopt hp | finish hp | conclude hp =>
    simpa [hp, Session.concluded, Session.gone, Happening.at?, Happening.station?] using ht
  | abandon _ ho =>
    have hp : r.session.phase ≠ .crashed := by
      intro hp
      simp [Session.isOver, hp] at ho
    simpa [hp, Session.gone] using ht

theorem Step.unopened (s : r.Step r') (h : r.Shape) (o : r.Openings) :
    r'.connections = [] → r'.requested = true →
      r'.session.clientOpen = false ∨ r'.session.isOver = true := by
  have hu := o.unopened
  have hs := h.stands
  simp only [← List.length_eq_zero_iff] at hu ⊢
  cases s with
  | idle => exact hu
  | beside hl _ =>
    have hi := (List.getElem?_eq_some_iff.mp (line?_eq_some_iff.mp hl).1).1
    exact fun hn => absurd hn (by simpa using List.ne_nil_of_length_pos (Nat.zero_lt_of_lt hi))
  | abort => exact hu
  | hearEnd => exact fun _ _ => .inl rfl
  | takeFirst | openFallback | writeLost => simp
  | crash | finish | conclude | abandon => simp [Session.gone, Session.concluded, Session.isOver]
  | _ =>
    simp
    grind [Session.Stands, Session.isOver]

theorem Step.retried (s : r.Step r') (h : r.Shape) (o : r.Openings) :
    r'.session.retried = true → r'.connections.length = 2 ∨
      r'.session.phase = .leavingFirst ∨ r'.session.phase = .aborted := by
  have ht := o.retried
  have hs := h.stands
  cases s with
  | openFallback hp _ _ =>
    have hn := (hs.of_leavingFirst hp).1
    simp [hn]
  | takeFirst hp _ hw _ =>
    have hr := (hs.of_awaiting hp hw).2.2.2
    simp [hr]
  | retry | abandon => simp [Session.gone]
  | idle => exact ht
  | _ =>
    simp [Session.gone, Session.concluded]
    grind

theorem Step.crashed (s : r.Step r') (o : r.Openings) : r'.session.phase = .crashed → ¬r'.CanOpen := by
  have hc := o.crashed
  cases s with
  | crash _ _ _ hn => exact fun _ => hn
  | beside | idle | abort | hearEnd => exact hc
  | _ => simp [Session.gone, Session.concluded]

theorem Step.ended (s : r.Step r') (h : r.Shape) (o : r.Openings) :
    ∀ report, r'.session.phase = .ended report → r'.pumps.length = r'.connections.length ∧
      (report.closeRequested = true → r'.requested = true) := by
  have he := o.ended
  have hs := h.stands
  cases s with
  | idle => exact he
  | beside | abort | hearEnd =>
    simp
    grind
  | finish hp hk _ _ _ =>
    have hn := hs.of_pump (by simp [Session.isOver, hp]) hk
    rintro _ ⟨⟩
    simp [hn, Session.report]
  | conclude hp _ hk =>
    have hn := hs.of_no_pump hp hk
    rintro _ ⟨⟩
    simp [hn, Session.report]
  | _ => simp [Session.gone]

/-- A session without a connection ends when its client's chunks have. -/
theorem Step.ended_unconnected {report : Report} (s : r.Step r') (h : r.Shape)
    (hp : r'.session.phase = .ended report) (hn : r'.connections = []) :
    r.session.phase = .ended report ∧ r.connections = [] ∨
      report.closeRequested = r'.requested ∧ r'.session.clientOpen = false := by
  have hs := h.stands
  rw [← List.length_eq_zero_iff] at hn ⊢
  cases s with
  | beside | idle | abort | hearEnd => exact .inl ⟨hp, by simpa using hn⟩
  | finish hq hk _ _ _ =>
    have := (hs.of_pump (by simp [Session.isOver, hq]) hk).1
    simp [this] at hn
  | conclude _ hc _ =>
    cases hp
    exact .inr ⟨rfl, hc⟩
  | _ => simp [Session.gone] at hp

/-- A connection that is not dropped has not been so. -/
theorem not_dropped {k : Option Nat} {j : Nat} {c : Connection}
    (hj : (r.modify k .drop).connections[j]? = some c) (hc : c.discarded = false) :
    k ≠ some j ∧ r.connections[j]? = some c := by
  rw [getElem?_modify_connections] at hj
  split at hj
  · obtain ⟨c', -, rfl⟩ := Option.map_eq_some_iff.mp hj
    rw [Connection.discarded_drop] at hc
    cases hc
  · exact ⟨‹_›, hj⟩

theorem Step.discarded (s : r.Step r') (h : r.Shape) (o : r.Openings) :
    ∀ i c, r'.connections[i]? = some c → c.discarded = false →
      r'.session.active = some i ∨ r'.session.target? = some i := by
  have hd := o.discarded
  have hs := h.stands
  cases s with
  | @beside i l l' _ _ hl hown =>
    intro j c hj hc
    rw [after_connections, getElem?_setLine_connections hl] at hj
    by_cases hji : j = i
    · obtain rfl : l'.connection = c := by simpa [hji] using hj
      rw [hown.frame.2.1] at hc
      exact hd j _ (hji ▸ (line?_eq_some_iff.mp hl).1) hc
    · exact hd j c (by simpa [hji] using hj) hc
  | idle => exact hd
  | abort | hearEnd | takeNext | writeKept | retry | replayStopped =>
    simp
    grind [Session.target?, Session.prepare]
  | written hp _ _ _ _ | replayed hp _ _ _ =>
    intro j c hj hc
    simp [getElem?_write_connections] at hj ⊢
    grind [Session.target?]
  | takeFirst hp _ hw _ =>
    have hn := (hs.of_awaiting hp hw).1
    intro j c hj hc
    simp [getElem?_pumping_connections, getElem?_opening_connections] at hj ⊢
    grind [Session.target?]
  | openFallback hp _ _ =>
    intro j c hj hc
    simp [getElem?_opening_connections, getElem?_modify_connections] at hj ⊢
    grind [Session.target?, Connection.takeClosed]
  | adopt hp _ _ =>
    intro j c hj hc
    obtain ⟨hn, hj⟩ := not_dropped (r := (r.modify _ _).pumping _ true) hj hc
    simp [getElem?_modify_connections, getElem?_pumping_connections] at hj ⊢
    grind [Session.target?, Connection.takeClosed]
  | @writeLost i chunk _ hp ha _ _ =>
    intro j c hj hc
    obtain ⟨hn, hj⟩ := not_dropped (r := r.after [.refused i chunk] false) (k := some i) hj hc
    have := hd j c hj hc
    simp [Session.target?, hp, ha] at this hn
    exact absurd this hn
  | crash hp _ _ _ | finish hp _ _ _ _ | conclude hp _ _ =>
    intro j c hj hc
    obtain ⟨hn, hj⟩ := not_dropped hj hc
    have := hd j c hj hc
    simp [Session.target?, hp] at this hn
    exact absurd this hn
  | abandon _ _ =>
    intro j c hj hc
    obtain ⟨hn, hj⟩ := not_dropped hj hc
    obtain ⟨hn', hj⟩ := not_dropped hj hc
    exact absurd (hd j c hj hc) (by simp [hn', show r.session.active ≠ some j from hn])

theorem Step.openings (s : r.Step r') (h : r.Shape) (o : r.Openings) : r'.Openings where
  opened := s.opened h o
  taken := s.taken h o
  untaken := s.untaken h o
  unopened := s.unopened h o
  retried := s.retried h o
  crashed := s.crashed o
  ended := s.ended h o
  discarded := s.discarded h o

end Relay

end Tunnel
