import Mathlib.Logic.Relation
import Tunnel.Proofs.Complaints
import Tunnel.Proofs.Relay.Reports
import Tunnel.Proofs.Retry

/-!
# The stages of a session

A session waits for the first chunk, goes on over its first connection, perhaps retries, and is
done, in this order. Whenever it waits for what comes next, its fields agree on where it is.

## Main definitions

* `Stage.Next` — the stage after a stage.
* `Session.AtHead` — how the fields of a session agree that waits for what comes next.

## Main statements

* `World.stages_ordered` — where a session can be, and where it can get from there.
-/

namespace Tunnel

/-- The stage after a stage; any stage but the last can be followed by the last. -/
inductive Stage.Next : Stage → Stage → Prop
  | connect : Next .awaitingFirstChunk .connected
  | retry : Next .connected .retrying
  | finish {s : Stage} : s ≠ .done → Next s .done

/-- How the fields of a session agree that waits for a chunk of the client or the end of its
pump. -/
structure Session.AtHead (s : Session) : Prop where
  awaiting : s.stage = .awaitingFirstChunk ↔ s.connected = false
  /-- Before the first chunk there is no connection and no pump. -/
  nothing : s.stage = .awaitingFirstChunk → s.active = none ∧ s.pump = none
  /-- Afterwards there is a pump, and a connection as long as the client's chunks are taken. -/
  pumping : s.stage = .connected ∨ s.stage = .retrying →
    s.pump.isSome ∧ (s.clientOpen = true → s.active.isSome)
  retrying : s.stage = .retrying ↔ s.retried = true
  going : s.stage ≠ .done

namespace Relay

variable {r r' : Relay}

theorem Reports.atHead (t : r.Reports) (h : r.Shape) (hp : r.session.phase = .selecting) :
    r.session.AtHead := by
  obtain ⟨hgoing, hretrying⟩ := t.stage (by simp [Session.isOver, hp])
  have hconn := t.connected
  rw [ne_eq, ← List.length_eq_zero_iff] at hconn
  cases h.stands with
  | waiting hn _ _ hw ha hk hr =>
    constructor <;> simp [hw, ha, hk, hr, hn, hconn, ← Bool.not_eq_true]
  | relaying hn _ _ hw _ ha hk =>
    refine ⟨?_, fun h => absurd h hw, fun _ => ⟨by simp [hk], fun ho => ?_⟩, hretrying, hgoing⟩
    · simp [hw, hconn, hn, ← Bool.not_eq_true]
    · simp [ho] at ha
      simp [ha]
  | leaving _ _ _ _ hp' => simp [hp] at hp'
  | replaying _ _ _ _ hp' => simp [hp] at hp'
  | gone hov => simp [Session.isOver, hp] at hov

theorem Step.next (s : r.Step r') (h : r.Shape) (t : r.Reports) :
    r'.session.stage = r.session.stage ∨ r.session.stage.Next r'.session.stage := by
  have hgoing := fun ho => (t.stage ho).1
  cases s with
  | takeFirst _ _ hw _ =>
    right
    simpa [hw] using Stage.Next.connect
  | retry hp hk _ _ hr =>
    have ho : r.session.isOver = false := by simp [Session.isOver, hp]
    have hw := (h.stands.active_of_pump ho hk).1
    have ht := t.stage ho
    have hc : r.session.stage = .connected := by
      cases hs : r.session.stage <;> simp_all
    right
    simpa [hc] using Stage.Next.retry
  | finish hp | conclude hp =>
    exact .inr (.finish (hgoing (by simp [Session.isOver, hp])))
  | _ =>
    left
    simp [Session.gone]

end Relay

namespace World

variable {σ : Type} [ClientChannel σ] {w w' : World σ} {engine : Engine} {d : Destination}
  {client : σ} {eventCapacity : Nat} {peers : List Peer} {moves : List (Move σ)}

theorem stages_of_moves (hs : w.relay.Sound) (ht : w.relay.Reports)
    (h : w.run? moves = some w') :
    Relation.ReflTransGen Stage.Next w.session.stage w'.session.stage := by
  have hkeep : ∀ r r' : Relay, r.Sound → r.Step r' →
      r.Reports ∧ Relation.ReflTransGen Stage.Next w.session.stage r.session.stage →
      r'.Reports ∧ Relation.ReflTransGen Stage.Next w.session.stage r'.session.stage := by
    rintro r r' hs s ⟨ht, hr⟩
    refine ⟨s.reports hs.shape ht, ?_⟩
    rcases s.next hs.shape ht with he | hn
    · exact he ▸ hr
    · exact hr.tail hn
  exact (keep_of_moves hkeep h hs ⟨ht, .refl⟩).2.2

/-- A session ends for lack of anything to wait for only before the first chunk. -/
theorem unconnected_of_finish (hs : w.relay.Sound) (h : w.move? (.session .finish) = some w') :
    w.transport.connections = [] := by
  change w.sessionStep? .finish = some w' at h
  unfold sessionStep? at h
  split at h
  · cases h
  · change w.finish? = some w' at h
    unfold finish? at h
    split at h
    · rename_i hc
      exact List.length_eq_zero_iff.mp (hs.shape.stands.of_no_pump hc.1 hc.2.2).1
    · cases h

/-- The fields of a session that waits for what comes next agree on its stage, and its stages
follow each other in order. It ends for lack of anything to wait for only if no connection was
opened, and when it passes a chunk on, it never misses its connection. -/
theorem stages_ordered (h : (start engine d client eventCapacity peers).run? moves = some w) :
    (w.session.phase = .selecting → w.session.AtHead) ∧
    (∀ moves' w', w.run? moves' = some w' →
      Relation.ReflTransGen Stage.Next w.session.stage w'.session.stage) ∧
    (∀ w', w.move? (.session .finish) = some w' → opened w.history = []) ∧
    (∀ chunk kept, w.session.phase = .writing chunk kept → w.session.active ≠ none) ∧
    .log .error d s!"client to remote pump has exception: {SessionError.noActiveConnection}" ∉
      w.history := by
  have hs := sound_of_run h
  have ht := reports_of_run h
  refine ⟨ht.atHead hs.shape, fun _ _ => stages_of_moves hs ht, fun w' hf => ?_,
    fun chunk kept hp => ?_, active_not_missed h⟩
  · rw [← List.length_eq_zero_iff, length_opened h, unconnected_of_finish hs hf]
    rfl
  · obtain ⟨i, hi⟩ := hs.shape.stands.active_of_writing hp
    simp [show w.session.active = some i from hi]

/-- After a retry, the session waits for the pump of the fallback connection. -/
theorem stages_ordered_refused : ∃ w, refused.run? refusedMoves = some w ∧
    w.session.phase = .selecting ∧ w.session.stage = .retrying ∧
    w.session.pump.isSome ∧ w.session.retried = true := by
  have hrun : (refused.run? refusedMoves).map (fun w => (w.session.phase, w.session.stage)) =
      some (.selecting, .retrying) := by rfl
  obtain ⟨w, hw, he⟩ := Option.map_eq_some_iff.mp hrun
  simp only [Prod.mk.injEq] at he
  obtain ⟨hp, hs⟩ := he
  have hhead := (stages_ordered hw).1 hp
  exact ⟨w, hw, hp, hs, (hhead.pumping (.inr hs)).1, hhead.retrying.mp hs⟩

end World

end Tunnel
