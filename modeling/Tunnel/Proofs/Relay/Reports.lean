import Tunnel.Proofs.Relay.Run

/-!
# What a session tells of itself

The fields of a session that its report is made of, and what its pumps tell it when they are over.

## Main definitions

* `Pump.Candid` — a pump whose outcome says what it was handed.
* `Relay.Reports` — how the fields of a session and its connections and pumps agree.

## Main statements

* `Relay.Step.reports`, `World.reports_of_run` — a step keeps this, and so does a run.
-/

namespace Tunnel

/-- The outcome of a pump says whether it was handed a chunk, and only a chunk can crash it. -/
def Pump.Candid (p : Pump) : Prop :=
  (∀ outcome, p.Left outcome → outcome.delivered = p.delivered) ∧
    ∀ reason, p.phase = .crashed reason → p.delivered = true

namespace Pump.Candid

variable {p : Pump}

theorem of_running (h : p.phase = .running) : p.Candid := by
  simp [Pump.Candid, Pump.Left, h]

theorem leave {outcome : PumpOutcome} (h : outcome.delivered = p.delivered) :
    (p.leave outcome).Candid := by
  constructor
  · intro outcome' hl
    rw [Pump.left_leave] at hl
    exact hl ▸ h
  · intro reason hc
    unfold Pump.leave at hc
    split at hc <;> cases hc

end Pump.Candid

namespace Line.Own

variable {i : Nat} {l l' : Line} {h : List Happening} {asks : Bool}

theorem candid (o : l.Own i l' h asks) (hc : ∀ p, l.pump = some p → p.Candid) :
    ∀ p, l'.pump = some p → p.Candid := by
  cases o with
  | drive => exact hc
  | finish | fail | failRead =>
    rintro _ ⟨⟩
    exact .leave rfl
  | send _ hr =>
    rintro _ ⟨⟩
    exact .of_running hr
  | crash =>
    rintro _ ⟨⟩
    exact ⟨by simp [Pump.Left], fun _ _ => rfl⟩
  | @settle p outcome hp hs _ =>
    rintro _ ⟨⟩
    refine ⟨fun outcome' hl => ?_, by simp⟩
    obtain rfl : outcome = outcome' := by simpa [Pump.Left] using hl
    exact (hc p hp).1 outcome (.inl hs)

/-- A pump that is over stays as it is. -/
theorem pump_eq_of_outcome? {p : Pump} {k : Nat} {outcome : PumpOutcome} (o : l.Own i l' h asks)
    (hp : l.pump = some p) (ho : p.outcome? k = some outcome) : l'.pump = some p := by
  cases o with
  | drive => exact hp
  | finish hq hr | send hq hr | fail hq hr | crash hq hr | failRead hq hr | settle hq hr =>
    obtain rfl := Option.some_inj.mp (hp.symm.trans hq)
    simp [Pump.outcome?, hr] at ho

end Line.Own

namespace Relay

/-- How the fields of a session and its connections and pumps agree. -/
structure Reports (r : Relay) : Prop where
  stage : r.session.isOver = false →
    r.session.stage ≠ .done ∧ (r.session.stage = .retrying ↔ r.session.retried = true)
  connected : r.session.connected = true ↔ r.connections ≠ []
  candid : ∀ (k : Nat) p, r.pumps[k]? = some p → p.Candid
  silent : r.connections = [] → r.session.hasIncomingData = false
  told : ∀ report, r.session.phase = .ended report →
    report = r.session.report r.destination report.closeRequested
  /-- A session with a connection ends when the pump of the last one is over. -/
  joined : ∀ report, r.session.phase = .ended report → r.connections ≠ [] →
    ∃ k p outcome, k + 1 = r.connections.length ∧ r.pumps[k]? = some p ∧
      p.outcome? k = some outcome ∧ r.session.hasIncomingData = outcome.delivered

variable {r r' : Relay}

theorem Step.stage (s : r.Step r') (h : r.Shape) (t : r.Reports) : r'.session.isOver = false →
    r'.session.stage ≠ .done ∧ (r'.session.stage = .retrying ↔ r'.session.retried = true) := by
  have ht := t.stage
  have hs := h.stands
  cases s with
  | beside | idle | abort | hearEnd => exact ht
  | takeFirst hp _ hw _ => simp [(hs.of_awaiting hp hw).2.2.2]
  | retry => simp
  | crash | finish | conclude | abandon => simp [Session.gone, Session.concluded, Session.isOver]
  | takeNext hp | written hp | writeKept hp | writeLost hp | openFallback hp | replayed hp
  | replayStopped hp | adopt hp =>
    simpa [Session.isOver, hp] using ht

theorem Step.connected (s : r.Step r') (h : r.Shape) (t : r.Reports) :
    r'.session.connected = true ↔ r'.connections ≠ [] := by
  have ht := t.connected
  have hs := h.stands
  simp only [ne_eq, ← List.length_eq_zero_iff] at ht ⊢
  cases s with
  | takeFirst => simp
  | openFallback hp =>
    have hn := (hs.of_leavingFirst hp).1
    simp [ht, hn]
  | _ => simpa [Session.gone, Session.concluded] using ht

theorem Step.candid (s : r.Step r') (t : r.Reports) :
    ∀ (k : Nat) p, r'.pumps[k]? = some p → p.Candid := by
  have ht := t.candid
  cases s with
  | @beside i l l' _ _ hl o =>
    intro k p hk
    rw [after_pumps, getElem?_setLine_pumps hl o.pump_isSome] at hk
    by_cases hki : k = i
    · rw [if_pos hki] at hk
      exact o.candid (fun q hq => ht i q ((line?_eq_some_iff.mp hl).2.trans hq)) p hk
    · rw [if_neg hki] at hk
      exact ht k p hk
  | takeFirst | adopt =>
    intro k p hk
    simp only [withSession_pumps, modify_pumps, pumping_pumps, opening_pumps, after_pumps,
      List.getElem?_append] at hk
    split at hk
    · exact ht k p hk
    · obtain rfl := List.mem_singleton.mp (List.mem_of_getElem? hk)
      exact .of_running rfl
  | _ => simpa using ht

theorem Step.silent (s : r.Step r') (h : r.Shape) (t : r.Reports) :
    r'.connections = [] → r'.session.hasIncomingData = false := by
  have ht := t.silent
  have hs := h.stands
  simp only [← List.length_eq_zero_iff] at ht ⊢
  cases s with
  | takeFirst | openFallback => simp
  | retry => exact fun _ => rfl
  | finish hp hk _ _ _ =>
    have hn := (hs.of_pump (by simp [Session.isOver, hp]) hk).1
    simp [hn]
  | _ => simpa [Session.gone, Session.concluded] using ht

theorem Step.told (s : r.Step r') (t : r.Reports) : ∀ report, r'.session.phase = .ended report →
    report = r'.session.report r'.destination report.closeRequested := by
  have ht := t.told
  cases s with
  | beside | idle | abort => exact ht
  | hearEnd hp => simp [hp]
  | finish | conclude =>
    rintro _ ⟨⟩
    rfl
  | _ => simp [Session.gone]

theorem Step.joined (s : r.Step r') (h : r.Shape) (t : r.Reports) :
    ∀ report, r'.session.phase = .ended report → r'.connections ≠ [] →
      ∃ k p outcome, k + 1 = r'.connections.length ∧ r'.pumps[k]? = some p ∧
        p.outcome? k = some outcome ∧ r'.session.hasIncomingData = outcome.delivered := by
  have ht := t.joined
  have hs := h.stands
  simp only [ne_eq, ← List.length_eq_zero_iff] at ht ⊢
  cases s with
  | @beside i l l' _ _ hl o =>
    intro report hp hn
    obtain ⟨k, p, outcome, hk, hj, ho, hd⟩ := ht report hp (by simpa using hn)
    refine ⟨k, p, outcome, by simpa using hk, ?_, ho, hd⟩
    rw [after_pumps, getElem?_setLine_pumps hl o.pump_isSome]
    split
    · rename_i hki
      subst hki
      exact o.pump_eq_of_outcome? ((line?_eq_some_iff.mp hl).2.symm.trans hj) ho
    · exact hj
  | idle | abort => exact ht
  | hearEnd hp => simp [hp]
  | finish hp hk hj ho _ =>
    rintro _ ⟨⟩ -
    have hn := (hs.of_pump (by simp [Session.isOver, hp]) hk).1
    exact ⟨_, _, _, by simp [hn], by simpa using hj, ho, rfl⟩
  | conclude hp _ hk =>
    have hn := (hs.of_no_pump hp hk).1
    simp [hn]
  | _ => simp [Session.gone]

theorem Step.reports (s : r.Step r') (h : r.Shape) (t : r.Reports) : r'.Reports where
  stage := s.stage h t
  connected := s.connected h t
  candid := s.candid t
  silent := s.silent h t
  told := s.told t
  joined := s.joined h t

theorem reports_start {σ : Type} (engine : Engine) (d : Destination) (client : σ)
    (eventCapacity : Nat) (peers : List Peer) :
    (World.start engine d client eventCapacity peers).relay.Reports := by
  constructor <;> simp [World.start, World.relay]

end Relay

theorem World.reports_of_run {σ : Type} [ClientChannel σ] {w : World σ} {engine : Engine}
    {d : Destination} {client : σ} {eventCapacity : Nat} {peers : List Peer} {moves : List (Move σ)}
    (h : (start engine d client eventCapacity peers).run? moves = some w) : w.relay.Reports :=
  (keep_of_run (fun _ _ hs s => s.reports hs.shape)
    (Relay.reports_start engine d client eventCapacity peers) h).2

end Tunnel
