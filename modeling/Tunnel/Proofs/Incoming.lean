import Tunnel.Proofs.Relay.Reports
import Tunnel.Proofs.Retry
import Tunnel.Proofs.Termination

/-!
# What came in

A report says whether the last connection gave any data. It takes the word of the connection's
pump for it, and a pump that has crashed gives none.

## Main statements

* `World.hasIncomingData_iff` — what a report says of incoming data.
-/

namespace Tunnel

namespace World

variable {σ : Type} [ClientChannel σ] {w : World σ} {engine : Engine} {d : Destination} {client : σ}
  {eventCapacity : Nat} {peers : List Peer} {moves : List (Move σ)} {report : Report}

omit [ClientChannel σ] in
/-- A pump knows whether the reader of its connection has handed out a chunk. -/
theorem delivered_iff_handedOut {k : Nat} {p : Pump} (hs : w.relay.Sound)
    (hp : w.pumps[k]? = some p) : p.delivered = true ↔ passed (.handedOut k) w.history ≠ [] := by
  obtain ⟨c, hc⟩ := hs.shape.connection_of_pump hp
  have hr := hs.fits.readSide_of_pump hc hp
  rw [hr.delivered p rfl, ← passed_relay_flow]
  exact hr.connection.delivered

/-- A report says that there was incoming data if the reader of the last connection has handed out
a chunk, unless the connection's pump crashed, which it does only at such a chunk. Without a
connection there was none. -/
theorem hasIncomingData_iff (h : (start engine d client eventCapacity peers).run? moves = some w)
    (hp : w.session.phase = .ended report) :
    (opened w.history = [] → report.hasIncomingData = false) ∧
    ∀ k, k + 1 = (opened w.history).length → ∃ p, w.pumps[k]? = some p ∧
      (report.hasIncomingData = true ↔
        passed (.handedOut k) w.history ≠ [] ∧ ∀ reason, p.phase ≠ .crashed reason) ∧
      (∀ reason, p.phase = .crashed reason → passed (.handedOut k) w.history ≠ []) := by
  have hs := sound_of_run h
  have ht := reports_of_run h
  have htold : report.hasIncomingData = w.session.hasIncomingData := by
    rw [ht.told report hp]
    rfl
  rw [← List.length_eq_zero_iff, length_opened h, htold]
  refine ⟨fun hn => ht.silent (List.length_eq_zero_iff.mp hn), fun k hk => ?_⟩
  have hne : w.relay.connections ≠ [] := List.ne_nil_of_length_pos (hk ▸ Nat.succ_pos k)
  obtain ⟨j, p, outcome, hj, hpump, hout, hin⟩ := ht.joined report hp hne
  obtain rfl : j = k := Nat.succ_injective (hj.trans hk.symm)
  have hd := delivered_iff_handedOut hs hpump
  have hin : w.session.hasIncomingData = outcome.delivered := hin
  refine ⟨p, hpump, ?_, fun reason hc => hd.mp ((ht.candid j p hpump).2 reason hc)⟩
  rw [hin]
  cases hph : p.phase with
  | running | settling => simp [Pump.outcome?, hph] at hout
  | ended result =>
    obtain rfl : result = outcome := by simpa [Pump.outcome?, hph] using hout
    rw [(ht.candid j p hpump).1 result (.inr hph), hd]
    simp
  | crashed reason =>
    obtain rfl : _ = outcome := by simpa [Pump.outcome?, hph] using hout
    simp [PumpOutcome.delivered]

/-- The client is about to close when the first chunk comes for it. -/
def tooLate : Option (World ScriptedClient) :=
  (start { fallbackHost := "fallback" } { host := "first", port := 80 } {} 8
    [{ answer := .accepted, endpoint := { reads := [.ok [9]] } }]).run?
    [.event (.message [1]), .session .take, .session .resume, .driver 0 .dial,
      .driver 0 .connect, .driver 0 .read, .driver 0 .read, .outside (.client { code := 2 }),
      .pump 0, .session .join]

/-- The report of a session to the first destination that passed one message on. -/
def briefReport (hasIncomingData closeRequested : Bool) : Report where
  destination := { host := "first", port := 80 }
  stage := .done
  connected := true
  retried := false
  replayedChunks := 0
  chunksToRemote := 1
  hasIncomingData
  closeRequested

/-- What was handed out but not sent counts. -/
theorem hasIncomingData_iff_tooLate : ∃ w report, tooLate = some w ∧
    w.session.phase = .ended report ∧ passed .sent w.history = [] ∧
    report.hasIncomingData = true := by
  have hrun : tooLate.map (fun w => (w.session.phase, passed .sent w.history,
      passed (.handedOut 0) w.history, (opened w.history).length, w.pumps.map (·.phase))) =
    some (.ended (briefReport true true), [], [[9]], 1, [.ended (.failed true .clientNotOpen)]) := by
    rfl
  obtain ⟨w, hw, he⟩ := Option.map_eq_some_iff.mp hrun
  simp only [Prod.mk.injEq] at he
  obtain ⟨hp, hsent, hout, hlen, hpumps⟩ := he
  obtain ⟨p, hp0, hiff, -⟩ := (hasIncomingData_iff hw hp).2 0 hlen.symm
  refine ⟨w, _, hw, hp, hsent, hiff.mpr ⟨by simp [hout], fun reason hc => ?_⟩⟩
  have hphase : (w.pumps.map (·.phase))[0]? = some (.crashed reason) := by simp [hp0, hc]
  simp [hpumps] at hphase

/-- A crash of the pump conceals what came in. -/
theorem crashed_conceals : ∃ w report, crashed = some w ∧ w.session.phase = .ended report ∧
    report.hasIncomingData = false ∧ passed (.handedOut 0) w.history = [[9]] := by
  have hrun : crashed.map (fun w => (w.session.phase, passed (.handedOut 0) w.history)) =
      some (.ended (briefReport false false), [[9]]) := by rfl
  obtain ⟨w, hw, he⟩ := Option.map_eq_some_iff.mp hrun
  simp only [Prod.mk.injEq] at he
  exact ⟨w, _, hw, he.1, rfl, he.2⟩

end World

end Tunnel
