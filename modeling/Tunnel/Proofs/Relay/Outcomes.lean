import Tunnel.Proofs.Line.Reading
import Tunnel.Proofs.Relay.Shape

/-!
# The outcomes of pumps

What the end of a session says of its pumps: a pump that failed has requested the close of the
client, and a session that ends without this request has lost its last pump to a crash.

## Main definitions

* `Relay.Outcomes` — what is known at the end of a session.

## Main statements

* `Relay.Step.outcomes` — a step keeps this.
-/

namespace Tunnel

/-- A step of a line's own, as it concerns the outcome of the pump. -/
theorem Line.Own.outcome {i : Nat} {l l' : Line} {h : List Happening} {asks : Bool} {p p' : Pump}
    (o : l.Own i l' h asks) (hp : l.pump = some p) (hp' : l'.pump = some p') :
    p' = p ∨ (∀ reason, p.phase ≠ .crashed reason) ∧
      ∀ b e, p'.Left (.failed b e) → asks = true := by
  cases o with
  | drive _ =>
    left
    simpa [hp] using hp'.symm
  | finish hq hr _ _ | fail hq hr _ _ | failRead hq hr _ =>
    obtain rfl := Option.some_inj.mp (hp.symm.trans hq)
    obtain rfl := Option.some_inj.mp hp'
    right
    simp [hr]
  | send hq hr _ | crash hq hr _ =>
    obtain rfl := Option.some_inj.mp (hp.symm.trans hq)
    obtain rfl := Option.some_inj.mp hp'
    right
    simp [Pump.Left, hr]
  | settle hq hs _ =>
    obtain rfl := Option.some_inj.mp (hp.symm.trans hq)
    right
    simp [hs]

namespace Relay

/-- What is known at the end of a session. -/
structure Outcomes (r : Relay) : Prop where
  /-- A pump that failed has requested the close of the client. -/
  failed : ∀ (k : Nat) (p : Pump) b e, r.pumps[k]? = some p → p.Left (.failed b e) → r.requested = true
  /-- Without this request, only a crash of the last pump ends a session. -/
  reported : ∀ report, r.session.phase = .ended report → report.closeRequested = false →
    ∀ (k : Nat) (p : Pump), r.pumps[k]? = some p →
      (∃ reason, p.phase = .crashed reason) ∨ k + 1 < r.connections.length
  crashed : r.session.phase = .crashed → r.pumps = []

variable {r r' : Relay}

/-- A step that leaves the pumps alone and does not end the session. -/
theorem Outcomes.quiet (o : r.Outcomes) (hp : r'.pumps = r.pumps)
    (hr : r.requested = true → r'.requested = true)
    (hs : r'.session.phase = r.session.phase ∧
        r'.connections.length = r.connections.length ∨
      r'.session.isOver = false ∨ r'.session.phase = .aborted) : r'.Outcomes := by
  have ho := o.failed
  have hrep := o.reported
  have hc := o.crashed
  refine ⟨?_, ?_, ?_⟩ <;> rw [hp] <;> grind [Session.isOver]

/-- A pump starts. -/
theorem Outcomes.start {i : Nat} {closesClient : Bool} (o : r.Outcomes)
    (hp : r'.pumps = r.pumps ++ [{ connection := i, closesClient }])
    (hr : r.requested = true → r'.requested = true) (hs : r'.session.isOver = false) :
    r'.Outcomes := by
  constructor
  · intro k p b e hk hl
    rw [hp, List.getElem?_append] at hk
    split at hk
    · exact hr (o.failed k p b e hk hl)
    · obtain rfl := List.mem_singleton.mp (List.mem_of_getElem? hk)
      simp [Pump.Left] at hl
  · intro report hph
    simp [Session.isOver, hph] at hs
  · intro hph
    simp [Session.isOver, hph] at hs

/-- A line takes a step of its own. -/
theorem Outcomes.own {i : Nat} {l l' : Line} {h : List Happening} {asks : Bool} (o : r.Outcomes)
    (hl : r.line? i = some l) (ho : l.Own i l' h asks) :
    ((r.setLine i l').after h asks).Outcomes := by
  have hi := (line?_eq_some_iff.mp hl).2
  have hpumps := getElem?_setLine_pumps hl ho.pump_isSome
  -- A pump is the same as before, or it has just taken the step.
  have hcases : ∀ (k : Nat) (p' : Pump), ((r.setLine i l').after h asks).pumps[k]? = some p' →
      ∃ p : Pump, r.pumps[k]? = some p ∧ (p' = p ∨ (∀ reason, p.phase ≠ .crashed reason) ∧
        ∀ b e, p'.Left (.failed b e) → asks = true) := by
    intro k p' hp'
    rw [after_pumps, hpumps] at hp'
    by_cases hk : k = i
    · subst hk
      rw [if_pos rfl] at hp'
      obtain ⟨p, hp⟩ := Option.isSome_iff_exists.mp (ho.pump_isSome ▸ Option.isSome_of_mem hp')
      exact ⟨p, hi.trans hp, ho.outcome hp hp'⟩
    · rw [if_neg hk] at hp'
      exact ⟨p', hp', .inl rfl⟩
  constructor
  · intro k p' b e hp' hl'
    obtain ⟨p, hp, rfl | ⟨-, ha⟩⟩ := hcases k p' hp'
    · simp [o.failed k _ b e hp hl']
    · simp [ha b e hl']
  · intro report hph hq k p' hp'
    rw [after_connections, setLine_connections, List.length_set]
    obtain ⟨p, hp, rfl | ⟨hn, -⟩⟩ := hcases k p' hp'
    · exact o.reported report hph hq k _ hp
    · refine (o.reported report hph hq k p hp).imp_left fun ⟨reason, hc⟩ => ?_
      exact absurd hc (hn reason)
  · intro hph
    have := o.crashed hph
    rw [← List.length_eq_zero_iff] at this ⊢
    simpa using this

theorem Step.outcomes (s : r.Step r') (h : r.Shape) (o : r.Outcomes) : r'.Outcomes := by
  have hst := h.stands
  cases s with
  | beside hl ho => exact o.own hl ho
  | idle | abort | hearEnd => exact o.quiet (by simp) (fun h => by simp [h]) (.inl (by simp))
  | takeNext | written | writeKept | writeLost | retry | openFallback | replayed
  | replayStopped =>
    refine o.quiet (by simp) (fun h => by simp [h]) (.inr (.inl ?_))
    simp [Session.isOver]
  | abandon => exact o.quiet (by simp) (by simp) (.inr (.inr rfl))
  | takeFirst | adopt => exact o.start rfl (by simp) (by simp [Session.isOver])
  | crash hp ho hw _ =>
    have hn : r.pumps = [] := by
      rw [← List.length_eq_zero_iff]
      exact (hst.of_awaiting hp hw).2.1
    constructor <;> simp [hn, Session.gone]
  | conclude hp hc hk =>
    have hn : r.pumps = [] := by
      rw [← List.length_eq_zero_iff]
      exact (hst.of_no_pump hp hk).2
    constructor <;> simp [hn, Session.gone, Session.concluded]
  | @finish k p outcome asks hp hk hj ho ha =>
    constructor
    · intro k p b e hk hl
      simp [o.failed k p b e (by simpa using hk) hl]
    · intro report hph hc j q hq
      have hn := (hst.of_pump (by simp [Session.isOver, hp]) hk).1
      have hq : r.pumps[j]? = some q := by simpa using hq
      have hlt := (List.getElem?_eq_some_iff.mp hq).1.trans_le h.pumps_le
      have hc : r.requested = false ∧ asks = false := by
        have hph : _ = report := Session.Phase.ended.inj hph
        simpa [← hph, Session.report] using hc
      by_cases hjk : j = k
      · subst hjk
        obtain rfl : p = q := Option.some_inj.mp (hj.symm.trans hq)
        left
        cases hpp : p.phase with
        | crashed reason => exact ⟨reason, rfl⟩
        | running | settling => simp [Pump.outcome?, hpp] at ho
        | ended result =>
          obtain rfl : result = outcome := by simpa [Pump.outcome?, hpp] using ho
          cases result with
          | finished b => simp [hc.2] at ha
          | failed b e => simpa [hc.1] using o.failed j p b e hj (.inr hpp)
      · right
        simp [hn]
        omega
    · simp [Session.gone, Session.concluded]

end Relay

end Tunnel
