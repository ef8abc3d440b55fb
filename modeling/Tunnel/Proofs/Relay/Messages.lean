import Tunnel.Proofs.Relay.Lines

/-!
# The messages of a session

All messages to the client come from one reader: that of the first connection, or that of the
fallback connection once the session has left the first one, which can only happen while the
first reader has handed out nothing.

## Main definitions

* `Relay.source` — the connection whose data goes to the client.
* `Relay.Messages` — how the messages and this connection's reader agree.

## Main statements

* `Relay.Step.messages` — a step keeps this.
-/

namespace Tunnel

namespace Relay

/-- The connection whose data goes to the client. -/
def source (r : Relay) : Nat := if r.session.retried then 1 else 0

/-- How the messages to the client and the readers agree. -/
structure Messages (r : Relay) : Prop where
  sent : passed .sent r.flow <+: passed (.handedOut r.source) r.flow
  /-- As long as the pump has not broken off, it has sent all that its reader handed out. -/
  unbroken : ∀ p, r.pumps[r.source]? = some p → ¬p.BrokeOff →
    passed .sent r.flow = passed (.handedOut r.source) r.flow
  /-- What a pump has not sent that has broken off is the last chunk that it was handed. -/
  broken : ∀ p, r.pumps[r.source]? = some p → p.BrokeOff →
    ∃ chunk, passed (.handedOut r.source) r.flow = passed .sent r.flow ++ [chunk]
  /-- A session leaves its first connection only after that one's end without a chunk. -/
  retired : r.session.retried = true →
    ∃ p, r.pumps[0]? = some p ∧ p.phase = .ended (.finished false)
  opened : ∀ s chunk, .sendCalled s chunk ∈ r.flow → s = .opened

variable {r r' : Relay}

/-- As long as the pump has not failed, it has sent all that its reader handed out. -/
theorem Messages.whole (m : r.Messages) (p : Pump) (hp : r.pumps[r.source]? = some p)
    (h : p.phase = .running ∨ ∃ b, p.Left (.finished b)) :
    passed .sent r.flow = passed (.handedOut r.source) r.flow := by
  refine m.unbroken p hp ?_
  rcases h with h | ⟨b, h | h⟩ <;> simp [Pump.BrokeOff, Pump.Left, h]

/-- A pump that still runs is that of the connection whose data goes to the client. -/
theorem Messages.source_eq {p : Pump} {k : Nat} (m : r.Messages) (h : r.Shape)
    (hp : r.pumps[k]? = some p) (hn : p.phase ≠ .ended (.finished false)) : k = r.source := by
  have hk := (List.getElem?_eq_some_iff.mp hp).1
  have hs := h.stands.bounds
  unfold source
  cases hr : r.session.retried with
  | false =>
    simp only [hr, Bool.false_eq_true, if_false] at hs ⊢
    omega
  | true =>
    obtain ⟨q, hq, he⟩ := m.retired hr
    have hk0 : k ≠ 0 := by
      rintro rfl
      obtain rfl : p = q := by simpa [hp] using hq
      exact hn he
    simp only [hr, if_true] at hs ⊢
    omega

/-- A step that leaves the pumps alone, and sends and hands out nothing. -/
theorem Messages.quiet {h : List Happening} (m : r.Messages) (hf : r'.flow = r.flow ++ h)
    (hs : passed .sent h = []) (hh : ∀ i, passed (.handedOut i) h = [])
    (hc : ∀ s chunk, .sendCalled s chunk ∉ h) (hp : r'.pumps = r.pumps)
    (hr : r'.session.retried = r.session.retried) : r'.Messages := by
  have hsrc : r'.source = r.source := by simp [source, hr]
  constructor
  · simpa [hf, hs, hh, hsrc] using m.sent
  · simpa [hf, hs, hh, hsrc, hp] using m.unbroken
  · simpa [hf, hs, hh, hsrc, hp] using m.broken
  · simpa [hr, hp] using m.retired
  · simpa [hf, hc] using m.opened

/-- A step after which the client's data comes from a connection that has yet to give any. -/
theorem Messages.anew (m : r.Messages) (hs : passed .sent r'.flow = passed .sent r.flow)
    (hh : ∀ i, passed (.handedOut i) r'.flow = passed (.handedOut i) r.flow)
    (hc : ∀ s chunk, .sendCalled s chunk ∈ r'.flow → .sendCalled s chunk ∈ r.flow)
    (h : passed (.handedOut r.source) r.flow = []) (h' : passed (.handedOut r'.source) r.flow = [])
    (hp : ∀ p, r'.pumps[r'.source]? = some p → p.phase = .running)
    (hr : r'.session.retried = true →
      ∃ p, r'.pumps[0]? = some p ∧ p.phase = .ended (.finished false)) : r'.Messages := by
  have hn : passed .sent r.flow = [] := by simpa [h] using m.sent
  constructor
  · simp [hs, hn]
  · simp [hs, hn, hh, h']
  · exact fun p hj hb => absurd hb (Pump.not_brokeOff_of_running (hp p hj))
  · exact hr
  · exact fun s chunk hm => m.opened s chunk (hc s chunk hm)

/-- A step of a driver sends nothing. -/
theorem sends_of_driven {i : Nat} {c c' : Connection} {h : List Happening}
    (d : c.Driven i c' h) :
    passed .sent h = [] ∧ (∀ j, passed (.handedOut j) h = []) ∧
    ∀ s chunk, .sendCalled s chunk ∉ h := by
  cases d <;> simp [Happening.at?, Happening.station?]

/-- The pump whose data goes to the client takes a step. -/
theorem Messages.pump {i : Nat} {l l' : Line} {p p' : Pump} {h : List Happening} {asks : Bool}
    (m : r.Messages) (hs : r.Shape) (hl : r.line? i = some l) (hp : l.pump = some p)
    (hp' : l'.pump = some p') (hn : p.phase ≠ .ended (.finished false))
    (hgo : ¬p'.BrokeOff → ¬p.BrokeOff ∧ passed .sent h = passed (.handedOut i) h)
    (hoff : p'.BrokeOff → p.BrokeOff ∧ h = [] ∨
      ¬p.BrokeOff ∧ ∃ chunk, passed (.handedOut i) h = passed .sent h ++ [chunk])
    (hc : ∀ s chunk, .sendCalled s chunk ∈ h → s = .opened) :
    ((r.setLine i l').after h asks).Messages := by
  have hpi : r.pumps[i]? = some p := (line?_eq_some_iff.mp hl).2.trans hp
  obtain rfl : i = r.source := m.source_eq hs hpi hn
  have hpump : l'.pump.isSome = l.pump.isSome := by simp [hp, hp']
  have hpumps := getElem?_setLine_pumps hl hpump
  have hsrc : ((r.setLine r.source l').after h asks).source = r.source := rfl
  have hunbroken : ¬p'.BrokeOff →
      passed .sent (r.flow ++ h) = passed (.handedOut r.source) (r.flow ++ h) := by
    intro hb
    obtain ⟨h1, h2⟩ := hgo hb
    rw [passed_append, passed_append, m.unbroken p hpi h1, h2]
  have hbroken : p'.BrokeOff → ∃ chunk, passed (.handedOut r.source) (r.flow ++ h) =
      passed .sent (r.flow ++ h) ++ [chunk] := by
    intro hb
    rcases hoff hb with ⟨h1, rfl⟩ | ⟨h1, chunk, h2⟩
    · simpa using m.broken p hpi h1
    · exact ⟨chunk, by rw [passed_append, passed_append, m.unbroken p hpi h1, h2,
        List.append_assoc]⟩
  have hthis : ∀ q, ((r.setLine r.source l').after h asks).pumps[r.source]? = some q → p' = q := by
    intro q hq
    rw [after_pumps, hpumps, if_pos rfl, hp'] at hq
    exact Option.some_inj.mp hq
  constructor
  · rw [hsrc, after_flow, setLine_flow]
    by_cases hb : p'.BrokeOff
    · obtain ⟨chunk, hb⟩ := hbroken hb
      exact hb ▸ List.prefix_append _ _
    · exact hunbroken hb ▸ List.prefix_rfl
  · intro q hq hb
    obtain rfl := hthis q hq
    exact hunbroken hb
  · intro q hq hb
    obtain rfl := hthis q hq
    exact hbroken hb
  · intro hr
    have hr : r.session.retried = true := hr
    have h0 : 0 ≠ r.source := by simp [source, hr]
    rw [after_pumps, hpumps, if_neg h0]
    exact m.retired hr
  · intro s chunk hm
    rw [after_flow, setLine_flow, List.mem_append] at hm
    exact hm.elim (m.opened s chunk) (hc s chunk)

theorem Messages.own {i : Nat} {l l' : Line} {h : List Happening} {asks : Bool}
    (m : r.Messages) (hs : r.Shape) (hl : r.line? i = some l) (o : l.Own i l' h asks) :
    ((r.setLine i l').after h asks).Messages := by
  have hrun : ∀ p : Pump, p.phase = .running → p.phase ≠ .ended (.finished false) := by
    intro p hp
    simp [hp]
  cases o with
  | drive d =>
    obtain ⟨h1, h2, h3⟩ := sends_of_driven d
    exact m.quiet rfl h1 h2 h3 (setLine_pumps_of_eq (line?_eq_some_iff.mp hl).2.symm) rfl
  | finish hp hr _ _ =>
    refine m.pump hs hl hp rfl (hrun _ hr) (fun _ => ⟨Pump.not_brokeOff_of_running hr, rfl⟩)
      (fun hb => ?_) (by simp)
    simp [Pump.brokeOff_leave] at hb
  | send hp hr _ =>
    refine m.pump hs hl hp rfl (hrun _ hr) (fun _ => ⟨Pump.not_brokeOff_of_running hr, ?_⟩)
      (fun hb => absurd hb (Pump.not_brokeOff_of_running hr)) (by simp)
    simp [Happening.at?, Happening.station?]
  | @fail _ chunk _ e _ hp hr _ hc hn =>
    refine m.pump hs hl hp rfl (hrun _ hr) (fun hb => absurd ?_ hb)
      (fun _ => .inr ⟨Pump.not_brokeOff_of_running hr, chunk, ?_⟩) ?_
    · exact Pump.brokeOff_leave.mpr ⟨true, e, rfl, hn⟩
    all_goals rcases hc with rfl | rfl <;> simp [Happening.at?, Happening.station?]
  | @crash _ chunk _ reason hp hr _ =>
    refine m.pump hs hl hp rfl (hrun _ hr) (fun hb => absurd (.inl ⟨reason, rfl⟩) hb)
      (fun _ => .inr ⟨Pump.not_brokeOff_of_running hr, chunk, ?_⟩) (by simp)
    simp [Happening.at?, Happening.station?]
  | failRead hp hr _ =>
    refine m.pump hs hl hp rfl (hrun _ hr) (fun _ => ⟨Pump.not_brokeOff_of_running hr, rfl⟩)
      (fun hb => ?_) (by simp)
    simp [Pump.brokeOff_leave] at hb
  | @settle p outcome hp hsettle _ =>
    have hb : ({ p with phase := .ended outcome } : Pump).BrokeOff ↔ p.BrokeOff := by
      simp [Pump.BrokeOff, Pump.left_ended_iff hsettle, hsettle]
    refine m.pump hs hl hp rfl (by simp [hsettle]) (fun h => ⟨hb.not.mp h, rfl⟩)
      (fun h => .inl ⟨hb.mp h, rfl⟩) (by simp)

theorem Step.messages (s : r.Step r') (h : r.Shape) (hf : r.Fits) (m : r.Messages) :
    r'.Messages := by
  have hst := h.stands
  cases s with
  | beside hl o => exact m.own h hl o
  | idle | abort | hearEnd | finish | conclude | abandon =>
    exact m.quiet (h := []) (by simp) rfl (by simp) (by simp) (by simp) rfl
  | takeNext =>
    refine m.quiet rfl ?_ ?_ ?_ rfl (by simp)
    all_goals simp [Happening.at?, Happening.station?]
  | crash | written | writeKept | writeLost | openFallback | replayed | replayStopped =>
    refine m.quiet rfl ?_ ?_ ?_ rfl rfl
    all_goals simp [Happening.at?, Happening.station?]
  | takeFirst hp ho hw _ =>
    obtain ⟨-, hn, -, hret⟩ := hst.of_awaiting hp hw
    have hh : ∀ i, passed (.handedOut i) r.flow = [] := fun i =>
      hf.handedOut_of_no_pump (by simp [List.length_eq_zero_iff.mp hn])
    refine m.anew ?_ ?_ ?_ (hh _) (hh _) ?_ (by simp [hret])
    all_goals simp [Happening.at?, Happening.station?, source, hn, hret]
  | retry hp hk hj hph hr =>
    obtain ⟨-, hn, hk0⟩ := hst.of_pump (by simp [Session.isOver, hp]) hk
    obtain rfl : _ = 0 := by simpa [hr] using hk0
    have hsrc : r.source = 0 := by simp [source, hr]
    refine m.anew rfl (fun _ => rfl) (fun _ _ => id) ?_ ?_ ?_ fun _ => ⟨_, hj, hph⟩
    · rw [hsrc]
      exact hf.handedOut_of_ended h hj hph
    · exact hf.handedOut_of_no_pump (List.getElem?_eq_none (by simp [hn, source]))
    · simp [source, hn]
  | adopt hp hc hr =>
    obtain ⟨-, -, hn, hret, -⟩ := hst.of_replaying hp
    have hh : passed (.handedOut r.source) r.flow = [] :=
      hf.handedOut_of_no_pump (List.getElem?_eq_none (by simp [hn, source, hret]))
    obtain ⟨p, hp0, he⟩ := m.retired hret
    refine m.anew (by simp) (by simp) (by simp) hh hh ?_ fun _ => ⟨p, ?_, he⟩
    · simp [source, hret, hn]
    · simpa [List.getElem?_append, hn] using hp0

end Relay

end Tunnel
