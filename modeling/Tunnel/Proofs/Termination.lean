import Tunnel.Proofs.CloseOnce

/-!
# How sessions end

A session that ends with a report has requested the close of the client, but for two ways out:
the client's events end before the first chunk, or the last pump crashes.

## Main definitions

* `Front.Settled` — the client's chunks end only for a reason.
* `World.LeftOpen` — the session has ended, and nobody has asked for the close of the client.

## Main statements

* `World.ends_closed` — what the end of a session says of the client.
-/

namespace Tunnel

variable {σ : Type}

namespace Front

/-- The session stops to take the client's chunks for a reason: the close of the client was
requested, or no more events can come. -/
structure Settled (x : Front σ) : Prop where
  hears : x.hears = false → x.chunks.finished = true ∨ x.chunks.cancelled = true
  finished : x.chunks.finished = true → x.gate.requested = true ∨ x.chunks.events.senderGone = true
  cancelled : x.chunks.cancelled = true → x.gate.requested = true

variable {x y : Front σ}

/-- Chunks that are taken no more although no close was requested have run out. -/
theorem Settled.senderGone (h : x.Settled) (hh : x.hears = false) (hr : x.gate.requested = false) :
    x.chunks.events.senderGone = true := by
  rcases h.hears hh with hf | hc
  · exact (h.finished hf).resolve_left (by simp [hr])
  · simp [h.cancelled hc] at hr

variable [ClientChannel σ]

theorem Act.mono (a : x.Act y) : (x.gate.requested = true → y.gate.requested = true) ∧
    (x.chunks.events.senderGone = true → y.chunks.events.senderGone = true) := by
  cases a with
  | desk d =>
    cases d with
    | client next => exact ⟨id, id⟩
    | close reason => exact ⟨fun _ => (x.gate.quiet_close reason).2, id⟩
  | events q hq => exact ⟨id, hq⟩
  | finish | cancel | deafen => exact ⟨id, id⟩

/-- What ends for good stays ended. -/
theorem Acts.mono (a : x.Acts y) : (x.gate.requested = true → y.gate.requested = true) ∧
    (x.chunks.events.senderGone = true → y.chunks.events.senderGone = true) := by
  induction a with
  | refl => exact ⟨id, id⟩
  | tail _ a ih => exact ⟨a.mono.1 ∘ ih.1, a.mono.2 ∘ ih.2⟩

theorem Act.settled (a : x.Act y) (h : x.Settled) : y.Settled := by
  obtain ⟨hr, hs⟩ := a.mono
  cases a with
  | desk d => exact ⟨h.hears, fun hf => (h.finished hf).imp_left hr, fun hc => hr (h.cancelled hc)⟩
  | events q hq => exact ⟨h.hears, fun hf => (h.finished hf).imp_right hs, h.cancelled⟩
  | finish hf => exact ⟨fun _ => .inl rfl, fun _ => hf, h.cancelled⟩
  | cancel hc => exact ⟨fun _ => .inr rfl, h.finished, fun _ => hc⟩
  | deafen hd => exact ⟨fun _ => hd, h.finished, h.cancelled⟩

theorem Acts.settled (a : x.Acts y) (h : x.Settled) : y.Settled := by
  induction a with
  | refl => exact h
  | tail _ a ih => exact a.settled ih

end Front

namespace World

variable [ClientChannel σ] {w : World σ} {engine : Engine} {d : Destination} {client : σ}
  {eventCapacity : Nat} {peers : List Peer} {moves : List (Move σ)} {report : Report}

theorem settled_of_run (h : (start engine d client eventCapacity peers).run? moves = some w) :
    w.front.Settled :=
  (acts_of_run h).settled ⟨nofun, nofun, nofun⟩

/-- A session that ends without a connection, and requests no close, has run out of events. -/
theorem senderGone_of_unconnected
    (h : (start engine d client eventCapacity peers).run? moves = some w)
    (hp : w.session.phase = .ended report) (hn : w.transport.connections = [])
    (hc : report.closeRequested = false) : w.chunks.events.senderGone = true := by
  obtain ⟨before, m, after, v, v', rfl, hv, hm, ha, hnot, hp', hn'⟩ := exists_turn
    (P := fun w => w.session.phase = .ended report ∧ w.transport.connections = []) h
    (by simp [start]) ⟨hp, hn⟩
  have hs := sound_of_run hv
  rcases (step_of_move hs.shape hs.fits hm).ended_unconnected hs.shape hp' hn' with hv | ⟨hr, ho⟩
  · exact absurd hv hnot
  · have hset : v'.front.Settled :=
      (acts_of_move hm).settled (settled_of_run hv)
    have hg := hset.senderGone ho (hr.symm.trans hc)
    exact (acts_of_run ha).mono.2 hg

/-- A session that ends with a report has requested the close of the client, which has been
attempted if the client was open or closing; unless the client's events came to an end before the
first chunk, or the pump of the last connection crashed. -/
theorem ends_closed (h : (start engine d client eventCapacity peers).run? moves = some w)
    (hp : w.session.phase = .ended report) :
    (report.closeRequested = true ∧ ∃ s : ReadyState, closings w.history =
      .closeSought s :: if s.closable then [.closeCalled] else []) ∨
    report.closeRequested = false ∧
      (w.transport.connections = [] ∧ passed .taken w.history = [] ∧
        w.chunks.events.senderGone = true ∨
      ∃ k p reason, k + 1 = w.transport.connections.length ∧ w.pumps[k]? = some p ∧
        p.phase = .crashed reason) := by
  have hs := sound_of_run h
  obtain ⟨hlen, hreq⟩ := hs.openings.ended report hp
  cases hc : report.closeRequested with
  | true =>
    have hr : w.gate.requested = true := hreq hc
    rcases once_of_run h with ⟨hn, -⟩ | ⟨-, hclosed⟩
    · exact absurd (hr.symm.trans hn) (by simp)
    · exact .inl ⟨rfl, hclosed⟩
  | false =>
    refine .inr ⟨rfl, ?_⟩
    by_cases hn : w.transport.connections = []
    · have ht := hs.openings.untaken hn (by simp [hp])
      rw [passed_relay_flow] at ht
      exact .inl ⟨hn, ht, senderGone_of_unconnected h hp hn hc⟩
    · -- Each connection has its pump, and that of the last one can only have crashed.
      have hlen : w.pumps.length = w.transport.connections.length := hlen
      have hpos : 0 < w.transport.connections.length := List.length_pos_iff.mpr hn
      have hk : w.transport.connections.length - 1 < w.pumps.length := by omega
      have hpump := List.getElem?_eq_getElem hk
      have hlast : w.transport.connections.length - 1 + 1 = w.transport.connections.length := by
        omega
      rcases hs.outcomes.reported report hp hc _ _ hpump with ⟨reason, hcrash⟩ | hlt
      · exact .inr ⟨_, _, reason, hlast, hpump, hcrash⟩
      · exact absurd hlt (by simp [World.relay, hlast])

theorem ends_closed_in_vain : ∃ w report, closedInVain busy = some w ∧
    w.session.phase = .ended report ∧ report.closeRequested = true ∧
    ∃ s : ReadyState, closings w.history =
      .closeSought s :: if s.closable then [.closeCalled] else [] := by
  have hrun : (closedInVain busy).map (fun w => match w.session.phase with
      | .ended report => some report.closeRequested
      | _ => none) = some (some true) := by rfl
  obtain ⟨w, hw, he⟩ := Option.map_eq_some_iff.mp hrun
  split at he
  · rename_i report hp
    rcases ends_closed hw hp with ⟨hc, hs⟩ | ⟨hc, -⟩
    · exact ⟨w, report, hw, hp, hc, hs⟩
    · simp [hc] at he
  · cases he

/-- The client's events come to an end before the first chunk. -/
def unconnected : Option (World ScriptedClient) :=
  (start { fallbackHost := "fallback" } { host := "first", port := 80 } {} 8 []).run?
    [.outside .noMoreEvents, .session .take, .session .finish]

/-- The pump crashes at its first chunk. -/
def crashed : Option (World ScriptedClient) :=
  (start { fallbackHost := "fallback" } { host := "first", port := 80 }
    { crashAfter := some 0 } 8 [{ answer := .accepted, endpoint := { reads := [.ok [9]] } }]).run?
    [.event (.message [1]), .session .take, .session .resume, .driver 0 .dial,
      .driver 0 .connect, .driver 0 .read, .driver 0 .read, .pump 0, .session .join]

/-- The session has reported, and the client is open, with nobody to have asked for its close. -/
def LeftOpen (w : World σ) : Prop :=
  (∃ report, w.session.phase = .ended report ∧ report.closeRequested = false) ∧
  closings w.history = [] ∧ ClientChannel.readyState w.gate.client = .opened

theorem leftOpen_of_run {run : Option (World σ)}
    (h : run.map (fun w => (match w.session.phase with
        | .ended report => some report.closeRequested
        | _ => none, closings w.history, ClientChannel.readyState w.gate.client)) =
      some (some false, [], .opened)) : ∃ w, run = some w ∧ w.LeftOpen := by
  obtain ⟨w, hw, he⟩ := Option.map_eq_some_iff.mp h
  simp only [Prod.mk.injEq] at he
  obtain ⟨hp, hc, ho⟩ := he
  split at hp
  · exact ⟨w, hw, ⟨_, ‹_›, by simpa using hp⟩, hc, ho⟩
  · cases hp

/-- Both of these ways out leave the client open. -/
theorem ends_without_closing :
    (∃ w, unconnected = some w ∧ w.LeftOpen) ∧ ∃ w, crashed = some w ∧ w.LeftOpen :=
  ⟨leftOpen_of_run rfl, leftOpen_of_run rfl⟩

end World

end Tunnel
