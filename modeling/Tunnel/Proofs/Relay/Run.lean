import Tunnel.Proofs.Relay.Books
import Tunnel.Proofs.Relay.Messages
import Tunnel.Proofs.Relay.Openings
import Tunnel.Proofs.Relay.Outcomes
import Tunnel.Proofs.Relay.Simulation

/-!
# Runs

What every step of a relay keeps holds after any run of a session, whatever the outside world
does meanwhile and however its tasks are scheduled.

## Main definitions

* `Relay.Sound` — all that steps keep.

## Main statements

* `World.keep_of_run` — what steps keep, runs keep.
* `World.sound_of_run` — a relay is sound after every run.
-/

namespace Tunnel

namespace Relay

/-- All that steps keep. -/
structure Sound (r : Relay) : Prop where
  shape : r.Shape
  fits : r.Fits
  books : r.Books
  messages : r.Messages
  outcomes : r.Outcomes
  openings : r.Openings

theorem Step.sound {r r' : Relay} (s : r.Step r') (h : r.Sound) : r'.Sound where
  shape := s.shape h.shape
  fits := s.fits h.shape h.fits
  books := s.books h.shape h.fits h.books
  messages := s.messages h.shape h.fits h.messages
  outcomes := s.outcomes h.shape h.outcomes
  openings := s.openings h.shape h.openings

/-- The settings never change. -/
theorem Step.engine_eq {r r' : Relay} (s : r.Step r') : r'.engine = r.engine := by
  cases s <;> rfl

theorem sound_start {σ : Type} (engine : Engine) (d : Destination) (client : σ)
    (eventCapacity : Nat) (peers : List Peer) :
    (World.start engine d client eventCapacity peers).relay.Sound where
  shape := shape_start engine d client eventCapacity peers
  fits := fits_start engine d client eventCapacity peers
  books := by
    constructor <;>
      simp [World.start, World.relay, World.history, Session.current?, Session.target?]
  messages := by constructor <;> simp [World.start, World.relay, World.history]
  outcomes := by constructor <;> simp [World.start, World.relay, World.history]
  openings := by constructor <;> simp [World.start, World.relay, World.history]

end Relay

namespace World

variable {σ : Type} {w w' : World σ}

/-! ### The history of data -/

section history

variable {s : Station} {e : Happening} {limit i : Nat}

@[simp] theorem passed_relay_flow : passed s w.relay.flow = passed s w.history :=
  passed_filter_concernsData

@[simp] theorem opensFallback_relay_flow : opensFallback w.relay.flow = opensFallback w.history :=
  fallback_filter_concernsData.1

@[simp] theorem owed_relay_flow : owed limit i w.relay.flow = owed limit i w.history :=
  owed_filter_concernsData

@[simp] theorem opened_relay_flow : opened w.relay.flow = opened w.history :=
  opened_filter_concernsData

theorem mem_relay_flow (he : e.concernsData) : e ∈ w.relay.flow ↔ e ∈ w.history := by
  simp [relay, he]

end history

/-! ### Moves by name -/

/-- A step of the session's task. -/
def Move.session (branch : Branch) : Move σ := .task (.session branch)

/-- A step of the driver of connection number `i`. -/
def Move.driver (i : Nat) (part : Driver.Part) : Move σ := .task (.beside (.driver i part))

/-- A step of pump number `k`. -/
def Move.pump (k : Nat) : Move σ := .task (.beside (.pump k))

/-- The client fires an event. -/
def Move.event (e : ChannelEvent) : Move σ := .outside (.event e)

/-! ### Runs from the start -/

variable [ClientChannel σ]

theorem run?_append {before after : List (Move σ)} :
    w.run? (before ++ after) = (w.run? before).bind (·.run? after) := by
  induction before generalizing w with
  | nil => rfl
  | cons m rest ih =>
    change (w.move? m).bind _ = ((w.move? m).bind _).bind _
    rw [Option.bind_assoc]
    exact congrArg _ (funext fun _ => ih)

/-- What becomes true in a run does so at some move. -/
theorem exists_turn {P : World σ → Prop} {moves : List (Move σ)} (h : w.run? moves = some w')
    (hn : ¬P w) (hp : P w') : ∃ before m after v v', moves = before ++ m :: after ∧
      w.run? before = some v ∧ v.move? m = some v' ∧ v'.run? after = some w' ∧ ¬P v ∧ P v' := by
  induction moves generalizing w with
  | nil =>
    cases h
    exact absurd hp hn
  | cons m rest ih =>
    obtain ⟨v, hv, hr⟩ := Option.bind_eq_some_iff.mp h
    by_cases hpv : P v
    · exact ⟨[], m, rest, w, v, rfl, rfl, hv, hr, hn, hpv⟩
    · obtain ⟨before, m', after, u, u', rfl, hu, hm, ha, hn', hp'⟩ := ih hr hpv
      refine ⟨m :: before, m', after, u, u', rfl, ?_, hm, ha, hn', hp'⟩
      exact Option.bind_eq_some_iff.mpr ⟨v, hv, hu⟩

/-- What every step of a sound relay keeps, a run keeps. -/
theorem keep_of_moves {P : Relay → Prop} (hkeep : ∀ r r', r.Sound → r.Step r' → P r → P r')
    {moves : List (Move σ)} (h : w.run? moves = some w') (hs : w.relay.Sound) (hp : P w.relay) :
    w'.relay.Sound ∧ P w'.relay := by
  induction moves generalizing w with
  | nil =>
    cases h
    exact ⟨hs, hp⟩
  | cons m rest ih =>
    obtain ⟨v, hv, hr⟩ := Option.bind_eq_some_iff.mp h
    have step := step_of_move hs.shape hs.fits hv
    exact ih hr (step.sound hs) (hkeep _ _ hs step hp)

variable {engine : Engine} {d : Destination} {client : σ} {eventCapacity : Nat}
  {peers : List Peer} {moves : List (Move σ)}

theorem keep_of_run {P : Relay → Prop} (hkeep : ∀ r r', r.Sound → r.Step r' → P r → P r')
    (hp : P (start engine d client eventCapacity peers).relay)
    (h : (start engine d client eventCapacity peers).run? moves = some w) :
    w.relay.Sound ∧ P w.relay :=
  keep_of_moves hkeep h (Relay.sound_start engine d client eventCapacity peers) hp

theorem sound_of_run (h : (start engine d client eventCapacity peers).run? moves = some w) :
    w.relay.Sound :=
  (keep_of_run (P := fun _ => True) (fun _ _ _ _ => id) trivial h).1

theorem engine_of_run (h : (start engine d client eventCapacity peers).run? moves = some w) :
    w.engine = engine :=
  (keep_of_run (P := (·.engine = engine)) (fun _ _ _ s => s.engine_eq.trans) rfl h).2

theorem destination_of_run
    (h : (start engine d client eventCapacity peers).run? moves = some w) :
    w.gate.destination = d :=
  (keep_of_run (P := (·.destination = d)) (fun _ _ _ s => s.destinations_eq.1.trans) rfl h).2

end World

end Tunnel
