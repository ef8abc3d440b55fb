import Tunnel.Client.Scripted
import Tunnel.Proofs.Relay.Run

/-!
# From the remote to the client

What the client gets is what one stream yielded.

## Main statements

* `World.sent_faithful` — the messages are chunks of one stream, in the order in which they were
  read, and all of them if the stream came to its end and the pump finished.
-/

namespace Tunnel

namespace Relay.Sound

variable {r : Relay}

/-- What a reader hands out was read from the stream before. -/
theorem handedOut_isPrefix (h : r.Sound) (i : Nat) :
    passed (.handedOut i) r.flow <+: passed (.received i) r.flow := by
  cases hl : r.line? i with
  | none => simp [(h.fits.absent i hl).passed_eq_nil]
  | some l => exact (List.prefix_append _ _).trans (h.fits.readSide i l hl).connection.handed_isPrefix

theorem received_length (h : r.Sound) {i : Nat} {data : Bytes}
    (hd : data ∈ passed (.received i) r.flow) : data ≠ [] ∧ data.length ≤ readBlockSize := by
  cases hl : r.line? i with
  | none => simp [(h.fits.absent i hl).passed_eq_nil] at hd
  | some l => exact (h.fits.readSide i l hl).connection.received data hd

/-- A pump that finished at the end of the stream has handed out all that was read. -/
theorem handedOut_of_exhausted (h : r.Sound) {i dial : Nat} {p : Pump} {b : Bool}
    (hp : r.pumps[i]? = some p) (hl : p.Left (.finished b)) (he : .exhausted i dial ∈ r.flow) :
    passed (.handedOut i) r.flow = passed (.received i) r.flow := by
  obtain ⟨c, hc⟩ := h.shape.connection_of_pump hp
  have hs := h.fits.readSide_of_pump hc hp
  exact (hs.finished p b rfl hl).2.2 dial he

end Relay.Sound

namespace World

variable {σ : Type} [ClientChannel σ] {w : World σ} {engine : Engine} {d : Destination}
  {client : σ} {eventCapacity : Nat} {peers : List Peer} {moves : List (Move σ)}

/-- The messages to the client are the chunks that one connection's stream yielded, as they were
read: those of the first connection, or those of the fallback connection after a retry. Nothing
is missing once the stream came to its end and the pump finished. -/
theorem sent_faithful (h : (start engine d client eventCapacity peers).run? moves = some w) :
    let i := if w.session.retried then 1 else 0
    (passed .sent w.history <+: passed (.received i) w.history ∧
      (passed .sent w.history).flatten <+: (passed (.received i) w.history).flatten) ∧
    (∀ message ∈ passed .sent w.history, message ≠ [] ∧ message.length ≤ 4096) ∧
    (∀ readiness message, .sendCalled readiness message ∈ w.history → readiness = .opened) ∧
    ∀ p b dial, w.pumps[i]? = some p →
      p.phase = .ended (.finished b) ∨ p.phase = .settling (.finished b) →
      .exhausted i dial ∈ w.history → passed .sent w.history = passed (.received i) w.history := by
  have hs := sound_of_run h
  intro i
  have hi : w.relay.source = i := rfl
  have hsent : passed .sent w.history <+: passed (.handedOut i) w.history := by
    simpa [hi] using hs.messages.sent
  have hread : passed (.handedOut i) w.history <+: passed (.received i) w.history := by
    simpa using hs.handedOut_isPrefix i
  have hpre := hsent.trans hread
  refine ⟨⟨hpre, hpre.flatten⟩, ?_, ?_, ?_⟩
  · intro message hm
    exact hs.received_length (by simpa using hpre.subset hm)
  · intro readiness message hm
    exact hs.messages.opened readiness message ((mem_relay_flow rfl).mpr hm)
  · intro p b dial hp hl he
    have hwhole : passed .sent w.history = passed (.handedOut i) w.history := by
      simpa [hi] using hs.messages.whole p hp (.inr ⟨b, hl.symm⟩)
    have hall := hs.handedOut_of_exhausted hp hl.symm ((mem_relay_flow rfl).mpr he)
    rw [hwhole]
    simpa using hall

/-- The remote answers in two reads and ends. -/
def answered : Option (World ScriptedClient) :=
  (start { fallbackHost := "fallback" } { host := "first", port := 80 } {} 8
    [{ answer := .accepted, endpoint := { reads := [.ok [1, 2], .ok [3]], ends := true } }]).run?
    ([.event (.message [7]), .session .take, .session .resume, .driver 0 .dial,
        .driver 0 .connect] ++
      List.replicate 5 (.driver 0 .read) ++ List.replicate 3 (.pump 0))

theorem sent_faithful_answered : ∃ w, answered = some w ∧
    passed .sent w.history = passed (.received 0) w.history ∧
    passed .sent w.history = [[1, 2], [3]] := by
  have hrun : answered.map (fun w => (w.session.retried, w.pumps[0]?.map (·.phase),
      decide (.exhausted 0 0 ∈ w.history), passed .sent w.history)) =
    some (false, some (.ended (.finished true)), true, [[1, 2], [3]]) := rfl
  obtain ⟨w, hw, he⟩ := Option.map_eq_some_iff.mp hrun
  simp only [Prod.mk.injEq, Option.map_eq_some_iff, decide_eq_true_eq] at he
  obtain ⟨hr, ⟨p, hp, hph⟩, hx, hm⟩ := he
  have hall := (sent_faithful hw).2.2.2
  rw [hr] at hall
  exact ⟨w, hw, hall p true 0 hp (.inl hph) hx, hm⟩

end World

end Tunnel
