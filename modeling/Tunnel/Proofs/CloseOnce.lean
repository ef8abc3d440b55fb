import Tunnel.Client.Scripted
import Tunnel.Proofs.CloseAnswer
import Tunnel.Proofs.Front
import Tunnel.Proofs.Relay.Run

/-!
# Closing once

The client, the pumps, the session and the client's chunks all ask to close the client, in any
order and again and again. Only the first request acts, and it calls the channel's close only if
the channel is open or closing. What the channel's close answers shows in the log alone.

## Main definitions

* `Desk.Once` — at most one request has acted.

## Main statements

* `World.close_once` — the client's close in any run.
-/

namespace Tunnel

/-- What the request shows that acts on a client of this readiness. -/
def ReadyState.closings (s : ReadyState) : List Happening :=
  .closeSought s :: if s.closable then [.closeCalled] else []

variable {σ : Type}

/-- No request to close the client has acted, or one has. -/
def Desk.Once (x : Desk σ) : Prop :=
  x.gate.requested = false ∧ x.closings = [] ∨
  x.gate.requested = true ∧ ∃ s : ReadyState, x.closings = s.closings

variable [ClientChannel σ]

theorem closings_safeClose (client : σ) (d : Destination) :
    closings (safeClose client d).2.2 = (ClientChannel.readyState client).closings := by
  have hs : (Happening.closeSought (ClientChannel.readyState client)).concernsClose = true := rfl
  have hc : Happening.closeCalled.concernsClose = true := rfl
  unfold safeClose callClose ReadyState.closings
  split
  · rcases ClientChannel.close client with ⟨_ | _, client'⟩ <;> simp [hs, hc]
  · simp [hs]

/-- Only the first request acts. -/
theorem Coordinator.closings_close (k : Coordinator σ) (reason : String) :
    Tunnel.closings (k.close reason).2.2 =
      if k.requested then [] else (ClientChannel.readyState k.client).closings := by
  by_cases hr : k.requested
  · simp [close_of_requested hr, hr]
  · rw [if_neg hr, close_of_not_requested (by simpa using hr)]
    simp [Caller.step.finished, closings_safeClose]

theorem Desk.Act.once {x y : Desk σ} (a : x.Act y) (h : x.Once) : y.Once := by
  cases a with
  | client next => simpa [Once, after] using h
  | close reason =>
    have hc := x.gate.closings_close reason
    refine .inr ⟨(x.gate.quiet_close reason).2, ?_⟩
    rcases h with ⟨hr, hn⟩ | ⟨hr, s, hs⟩
    · exact ⟨ClientChannel.readyState x.gate.client, by simp [after, hc, hr, hn]⟩
    · exact ⟨s, by simp [after, hc, hr, hs]⟩

theorem Front.Acts.once {x y : Front σ} (a : x.Acts y) (h : x.toDesk.Once) : y.toDesk.Once := by
  induction a with
  | refl => exact h
  | tail _ a ih =>
    cases a with
    | desk d => exact d.once ih
    | events | finish | cancel | deafen => exact ih

namespace World

variable {w : World σ} {engine : Engine} {d : Destination} {client : σ} {eventCapacity : Nat}
  {peers : List Peer} {moves : List (Move σ)}

theorem once_of_run (h : (start engine d client eventCapacity peers).run? moves = some w) :
    w.front.toDesk.Once :=
  (acts_of_run h).once (.inl ⟨rfl, rfl⟩)

/-- In every run, the channel's close is called at most once, by the first request to close the
client and only if the client is then open or closing. Whatever the close answers, the session
goes on as if it had succeeded, and reports the same; it never crashes if connections can have
queues of its capacity. -/
theorem close_once (h : (start engine d client eventCapacity peers).run? moves = some w) :
    (w.gate.requested = false ∧ closings w.history = [] ∨
      w.gate.requested = true ∧ ∃ s : ReadyState, closings w.history =
        .closeSought s :: if s.closable then [.closeCalled] else []) ∧
    (∃ v, (start engine d (Lenient.mk client) eventCapacity peers).run?
        (moves.map Move.lenient) = some v ∧
      v.session = w.session ∧ unlogged v.history = unlogged w.history) ∧
    (validCapacity (max engine.capacity 1) = true → w.session.phase ≠ .crashed) := by
  refine ⟨once_of_run h, ?_, fun hv hp => ?_⟩
  · have ha : (start engine d client eventCapacity peers).Alike
        (start engine d (Lenient.mk client) eventCapacity peers) :=
      ⟨⟨rfl, rfl, rfl, rfl⟩, rfl, rfl, rfl⟩
    have hr := ha.run? moves
    rw [h] at hr
    generalize hl : World.run? _ (moves.map Move.lenient) = r at hr
    cases hr with
    | some a => exact ⟨_, rfl, a.session, by simp [history, a.trace]⟩
  · have hc := (sound_of_run h).openings.crashed hp
    rw [Relay.CanOpen, show w.relay.engine = engine from engine_of_run h] at hc
    exact hc hv

/-- A client whose close fails and leaves it open. -/
def busy : ScriptedClient := { closeError := some (.closeFailed "busy") }

/-- The client asks for the close; then the remote ends, and the session asks for it again. -/
def closedInVain {σ : Type} [ClientChannel σ] (client : σ) : Option (World σ) :=
  (start { fallbackHost := "fallback" } { host := "first", port := 80 } client 8
    [{ answer := .accepted, endpoint := { reads := [.ok [9]], ends := true } }]).run?
    [.event (.message [1]), .session .take, .session .resume, .driver 0 .dial,
      .driver 0 .connect, .event .close, .session .take, .driver 0 .read, .driver 0 .read,
      .driver 0 .read, .pump 0, .pump 0, .session .join]

theorem close_once_in_vain : ∃ w v, closedInVain busy = some w ∧
    closedInVain (Lenient.mk busy) = some v ∧
    closings w.history = [.closeSought .opened, .closeCalled] ∧
    v.session = w.session ∧ w.session.phase ≠ .crashed := by
  have hrun : (closedInVain busy).map (fun w => closings w.history) =
    some [.closeSought .opened, .closeCalled] := by rfl
  obtain ⟨w, hw, hc⟩ := Option.map_eq_some_iff.mp hrun
  obtain ⟨-, ⟨v, hv, hs, -⟩, hn⟩ := close_once hw
  exact ⟨w, v, hw, hv, hc, hs, hn (by decide)⟩

end World

end Tunnel
