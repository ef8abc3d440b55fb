import Tunnel.Client.Scripted
import Tunnel.Proofs.Relay.Run
import Tunnel.Server.Session

/-!
# Crashes

A crash of a dial or of the client's send takes a driver or a pump with it, but not the session
beside them. The session itself crashes only where no queue can be made for a connection, and so
at its first chunk or never.

## Main definitions

* `Relay.Halted` — why the task of a session is gone before its end.

## Main statements

* `World.crashed_iff` — which capacities can be served, and how a session is over.
-/

namespace Tunnel

/-- A queue that counts zero as one can be made unless it is too large. -/
theorem validCapacity_max_one {n : Nat} :
    validCapacity (max n 1) = true ↔ n ≤ maxQueueCapacity := by
  have hone : 1 ≤ maxQueueCapacity := by decide
  simp only [validCapacity, Bool.and_eq_true, decide_eq_true_eq]
  omega

theorem Transport.open?_isSome_iff {t : Transport} {d : Destination} {capacity : Nat} :
    (t.open? d capacity).isSome = true ↔ capacity ≤ maxQueueCapacity := by
  rw [← validCapacity_max_one]
  by_cases hv : validCapacity (max capacity 1) <;> simp [open?, Connection.fresh, hv]

theorem Served.accept?_isSome_iff {server : Server} {engine : Engine} {d : Destination}
    {peers : List Peer} :
    (Served.accept? server engine d peers).isSome = true ↔
      server.eventCapacity ≤ maxQueueCapacity := by
  rw [← validCapacity_max_one]
  by_cases hv : validCapacity (max server.eventCapacity 1) <;>
    simp [accept?, WebSocket.Feed.accept?, hv]

namespace Relay

/-- Why the task of a session is gone before its end. -/
structure Halted (r : Relay) : Prop where
  /-- Only a chunk can crash it. -/
  crashed : r.session.phase = .crashed → passed .taken r.flow ≠ []
  aborted : r.session.phase = .aborted → r.session.abortRequested = true

variable {r r' : Relay}

theorem Step.halted (s : r.Step r') (h : r.Halted) : r'.Halted := by
  have hc := h.crashed
  have ha := h.aborted
  cases s with
  | idle => exact h
  | beside | hearEnd =>
    constructor
    · exact fun hp => by simpa using fun hn => absurd hn (hc hp)
    · exact ha
  | abort => exact ⟨hc, fun _ => rfl⟩
  | crash =>
    constructor
    · simp [Happening.at?, Happening.station?]
    · simp [Session.gone]
  | abandon ha _ =>
    constructor
    · simp [Session.gone]
    · exact fun _ => ha
  | _ => constructor <;> simp [Session.gone, Session.concluded]

end Relay

namespace World

variable {σ : Type} [ClientChannel σ] {w : World σ} {d : Destination} {client : σ}
  {eventCapacity : Nat} {peers : List Peer} {moves : List (Move σ)} {c : Config} {host : String}

theorem halted_of_run {engine : Engine}
    (h : (start engine d client eventCapacity peers).run? moves = some w) : w.relay.Halted :=
  (keep_of_run (fun _ _ _ => Relay.Step.halted) ⟨nofun, nofun⟩ h).2

omit [ClientChannel σ] in
/-- Without a queue for its connection, a session does not get beyond its first chunk. -/
theorem crashed_of_taken (hs : w.relay.Sound) (hn : ¬w.relay.CanOpen)
    (ht : passed .taken w.history ≠ []) : w.session.phase = .crashed := by
  by_contra hp
  have hc : w.relay.connections = [] := by
    by_contra hc
    exact hn (hs.shape.canOpen hc)
  exact ht (passed_relay_flow ▸ hs.openings.untaken hc hp)

/-- The queue of a client's events and the queues of connections can be made unless their capacity
is too large. With a capacity that is too large for a connection, a session crashes as soon as it
takes a chunk; for no other reason does it ever crash, so when it is over and was not told to stop,
it has reported. -/
theorem crashed_iff (h : (start (.ofConfig c host) d client eventCapacity peers).run? moves = some w) :
    (∀ engine d' peers', (Served.accept? (.ofConfig c) engine d' peers').isSome = true ↔
      c.eventQueueCapacity.toNat ≤ maxQueueCapacity) ∧
    (∀ (t : Transport) d', (t.open? d' w.engine.capacity).isSome = true ↔
      c.remoteQueueCapacity.toNat ≤ maxQueueCapacity) ∧
    (w.session.phase = .crashed ↔
      maxQueueCapacity < c.remoteQueueCapacity.toNat ∧ passed .taken w.history ≠ []) ∧
    (w.session.isOver = true → w.session.phase ≠ .crashed →
      (∃ report, w.session.phase = .ended report) ∨
      w.session.phase = .aborted ∧ w.session.abortRequested = true) := by
  have hs := sound_of_run h
  have hh := halted_of_run h
  have hcap : w.engine.capacity = c.remoteQueueCapacity.toNat := by
    rw [engine_of_run h]
    rfl
  have hopen : w.relay.CanOpen ↔ c.remoteQueueCapacity.toNat ≤ maxQueueCapacity := by
    rw [← hcap]
    exact validCapacity_max_one
  refine ⟨fun _ _ _ => Served.accept?_isSome_iff, fun t d' => ?_, ?_, fun ho hn => ?_⟩
  · rw [Transport.open?_isSome_iff, hcap]
  · rw [← Nat.not_le, ← hopen]
    constructor
    · exact fun hp => ⟨hs.openings.crashed hp, passed_relay_flow ▸ hh.crashed hp⟩
    · exact fun ⟨hc, ht⟩ => crashed_of_taken hs hc ht
  · cases hp : w.session.phase with
    | ended report => exact .inl ⟨report, rfl⟩
    | aborted => exact .inr ⟨rfl, hh.aborted hp⟩
    | crashed => exact absurd hp hn
    | selecting | writing | leavingFirst | replaying => simp [Session.isOver, hp] at ho

/-- The largest queues that can be made. -/
def widest : Config :=
  { eventQueueCapacity := 2305843009213693951, remoteQueueCapacity := 2305843009213693951 }

/-- The first dial crashes, and so does the client's send at the first chunk of the fallback. -/
def contained : Option (World ScriptedClient) :=
  (start (.ofConfig widest "fallback") { host := "first", port := 80 } { crashAfter := some 0 } 8
    [{ answer := .crashed }, { answer := .accepted, endpoint := { reads := [.ok [9]] } }]).run?
    [.event (.message [1]), .session .take, .session .resume, .driver 0 .dial, .driver 0 .connect,
      .pump 0, .session .join, .session .resume, .session .resume, .session .resume,
      .driver 1 .dial, .driver 1 .connect, .driver 1 .read, .driver 1 .read, .pump 1,
      .session .join]

theorem crashed_iff_contained : widest.validate = .ok () ∧ ∃ w, contained = some w ∧
    passed .taken w.history ≠ [] ∧ w.session.isOver = true ∧ w.session.phase ≠ .crashed ∧
    ∃ report, w.session.phase = .ended report := by
  have hrun : contained.map (fun w => (passed .taken w.history, w.session.isOver,
      w.session.abortRequested)) = some ([[1]], true, false) := by rfl
  obtain ⟨w, hw, he⟩ := Option.map_eq_some_iff.mp hrun
  simp only [Prod.mk.injEq] at he
  obtain ⟨ht, ho, ha⟩ := he
  obtain ⟨-, -, hc, hover⟩ := crashed_iff hw
  have hn : w.session.phase ≠ .crashed := fun hp => absurd (hc.mp hp).1 (by decide)
  refine ⟨rfl, w, hw, by simp [ht], ho, hn, (hover ho hn).resolve_right ?_⟩
  simp [ha]

/-- Queues that are too large by one. -/
def overfull : Config :=
  { eventQueueCapacity := 2305843009213693952, remoteQueueCapacity := 2305843009213693952 }

/-- The settings are accepted, but the client's queue cannot be made, and a session crashes at its
first chunk. -/
theorem overfull_crashes : overfull.validate = .ok () ∧
    Served.accept? (.ofConfig overfull) (.ofConfig overfull "fallback")
      { host := "first", port := 80 } [] = none ∧
    ∃ w, (start (.ofConfig overfull "fallback") { host := "first", port := 80 }
        ({} : ScriptedClient) 8 [{ answer := .accepted }]).run?
      [.event (.message [1]), .session .take] = some w ∧ w.session.phase = .crashed := by
  refine ⟨rfl, rfl, ?_⟩
  have hrun : ((start (.ofConfig overfull "fallback") { host := "first", port := 80 }
        ({} : ScriptedClient) 8 [{ answer := .accepted }]).run?
      [.event (.message [1]), .session .take]).map (·.session.phase) = some .crashed := by rfl
  exact Option.map_eq_some_iff.mp hrun

end World

end Tunnel
