import Tunnel.Proofs.Deeds
import Tunnel.Proofs.Relay.Run

/-!
# Complaints

What a session logs as an error: that a chunk of the client could not be written, that one of the
remote could not be passed on, that the client's close failed, or that the fallback connection
ended with an error. A session that writes has a connection, so that it never complains of having
none.

## Main definitions

* `Plumbing.Proper` — only complaints have been logged as errors.

## Main statements

* `World.complaint_of_error` — every error that a run logs is one of these.
* `World.active_not_missed` — a missing connection is not.
-/

namespace Tunnel

namespace Happening

/-- Whether an error is logged. -/
def complains : Happening → Bool
  | .logged line => line.level = .error
  | _ => false

@[simp] theorem complains_log (level : Log.Level) (d : Destination) (text : String) :
    (log level d text).complains = decide (level = .error) := rfl

/-- If an error is logged, it is a complaint of the session with destination `d`. -/
def Proper (d : Destination) (e : Happening) : Prop :=
  e.complains = true → ∃ c : Complaint, e = .log .error d c.text

theorem log_injective {level : Log.Level} {d : Destination} {text text' : String}
    (h : log level d text = log level d text') : text = text' := by
  simp only [log, logged.injEq, Log.Line.mk.injEq, true_and] at h
  exact (String.append_right_inj _).mp h

end Happening

/-! ### What has been logged -/

theorem Happening.Proper.of_plain {d : Destination} {e : Happening} (he : e.plain = true) :
    e.Proper d := fun hc => by
  cases e <;> simp_all [plain, complains]

variable {σ : Type}

/-- The session goes to `d`, and all errors that were logged are complaints. -/
structure Plumbing.Proper (d : Destination) (q : Plumbing σ) : Prop where
  destination : q.gate.destination = d
  trace : ∀ e ∈ q.trace, e.Proper d

section

variable {d : Destination} {q q' : Plumbing σ} {h : List Happening}

/-- The coordinator works, and notes what it does. -/
theorem Plumbing.Proper.gate {gate : Coordinator σ} (hq : q.Proper d)
    (hd : gate.destination = q.gate.destination) (hh : ∀ e ∈ h, e.Proper q.gate.destination) :
    ({ q with gate }.note h).Proper d where
  destination := hd.trans hq.destination
  trace e he := by
    rcases List.mem_append.mp he with he | he
    · exact hq.destination ▸ hh e (List.mem_reverse.mp he)
    · exact hq.trace e he

theorem Plumbing.Proper.note (hq : q.Proper d) (hh : Plain h) : (q.note h).Proper d :=
  hq.gate rfl fun e he => .of_plain (hh e he)

variable [ClientChannel σ]

/-- A request to close the client complains of nothing but a close that failed. -/
theorem Coordinator.proper_close (k : Coordinator σ) (reason : String) :
    ∀ e ∈ (k.close reason).2.2, e.Proper k.destination := by
  by_cases hr : k.requested
  · simp [close_of_requested hr, Happening.Proper]
  · have hclose : ∀ e ∈ (safeClose k.client k.destination).2.2, e.Proper k.destination := by
      unfold safeClose callClose
      split
      · split
        · simp [Happening.Proper, Happening.complains]
        · rename_i err _ _
          simp only [List.forall_mem_cons]
          refine ⟨?_, ?_, fun _ => ⟨.closing err, rfl⟩, by simp⟩
          all_goals simp [Happening.Proper, Happening.complains]
      · simp [Happening.Proper, Happening.complains]
    rw [close_of_not_requested (by simpa using hr)]
    simp only [List.forall_mem_append, List.forall_mem_singleton]
    exact ⟨hclose, by simp [Happening.Proper, Caller.step.finished]⟩

theorem Plumbing.Deed.proper (s : q.Deed q') (hq : q.Proper d) : q'.Proper d := by
  cases s with
  | note hh => exact hq.note hh
  | complain c => exact hq.gate rfl (List.forall_mem_singleton.mpr fun _ => ⟨c, rfl⟩)
  | client | pumps => exact ⟨hq.destination, hq.trace⟩
  | close reason =>
    exact hq.gate (q.gate.quiet_close reason).1.destination (q.gate.proper_close reason)
  | @transport r s =>
    have ht : Plumbing.Proper d { q with transport := r.1 } := ⟨hq.destination, hq.trace⟩
    exact ht.note s.plain

end

namespace World

variable [ClientChannel σ] {w w' : World σ} {d : Destination} {lacks : Prop}

/-- A deed keeps the trace proper unless it complains of a missing connection. -/
theorem Deed.proper (s : Deed lacks w w') (hl : ¬lacks) (hw : w.toPlumbing.Proper d) :
    w'.toPlumbing.Proper d := by
  cases s with
  | beside s => exact s.proper hw
  | miss h => exact absurd h hl
  | session | events | finish | cancel | deafen => exact hw

theorem Deeds.proper (s : Deeds lacks w w') (hl : ¬lacks) (hw : w.toPlumbing.Proper d) :
    w'.toPlumbing.Proper d := by
  induction s with
  | refl => exact hw
  | tail _ s ih => exact s.proper hl ih

omit [ClientChannel σ] in
/-- A session that passes a chunk on has a connection for it. -/
theorem not_lacking (hs : w.relay.Shape) : ¬w.Lacking := by
  rintro ⟨hn, ⟨chunk, kept, hp⟩ | ⟨hp, ho, hw⟩⟩
  · obtain ⟨i, hi⟩ := hs.stands.active_of_writing hp
    exact absurd (hn.symm.trans hi) (by simp)
  · obtain ⟨i, hi⟩ := hs.stands.active_of_clientOpen hp hw ho
    exact absurd (hn.symm.trans hi) (by simp)

theorem proper_of_moves {moves : List (Move σ)} (hs : w.relay.Sound) (s : w.toPlumbing.Proper d)
    (h : w.run? moves = some w') : w'.toPlumbing.Proper d := by
  induction moves generalizing w with
  | nil =>
    cases h
    exact s
  | cons m rest ih =>
    obtain ⟨v, hv, hr⟩ := Option.bind_eq_some_iff.mp h
    have hp := (deeds_of_move hv).proper (not_lacking hs.shape) s
    exact ih ((step_of_move hs.shape hs.fits hv).sound hs) hp hr

variable {engine : Engine} {client : σ} {eventCapacity : Nat} {peers : List Peer}
  {moves : List (Move σ)}

theorem complaint_of_error {e : Happening}
    (h : (start engine d client eventCapacity peers).run? moves = some w) (he : e ∈ w.history)
    (hc : e.complains = true) : ∃ c : Complaint, e = .log .error d c.text := by
  have hstart : (start engine d client eventCapacity peers).toPlumbing.Proper d :=
    ⟨rfl, by simp [start, Happening.Proper]⟩
  have hs := Relay.sound_start engine d client eventCapacity peers
  exact (proper_of_moves hs hstart h).trace e (List.mem_reverse.mp he) hc

end World

/-- Texts that begin differently differ. -/
theorem append_ne_append {s t u v : String} (hs : s.toList ≠ []) (ht : t.toList ≠ [])
    (h : s.toList.head? ≠ t.toList.head?) : s ++ u ≠ t ++ v := by
  intro he
  have he := congrArg (·.toList.head?) he
  simp only [String.toList_append, List.head?_append_of_ne_nil _ hs,
    List.head?_append_of_ne_nil _ ht] at he
  exact h he

/-- That there is no connection is not among the complaints. -/
theorem Complaint.text_ne_noActiveConnection (c : Complaint) :
    c.text ≠ s!"client to remote pump has exception: {SessionError.noActiveConnection}" := by
  intro h
  cases c with
  | forwarding e =>
    have h := (String.append_right_inj _).mp h
    exact append_ne_append (s := "Remote error: ") (t := "N") (v := "o active remote connection")
      (by decide) (by decide) (by decide) h
  | delivering e | closing e | fallback e =>
    exact append_ne_append (by decide) (by decide) (by decide) h

/-- A session that passes a chunk on never misses its connection. -/
theorem World.active_not_missed [ClientChannel σ] {w : World σ} {engine : Engine} {d : Destination}
    {client : σ} {eventCapacity : Nat} {peers : List Peer} {moves : List (Move σ)}
    (h : (start engine d client eventCapacity peers).run? moves = some w) :
    .log .error d s!"client to remote pump has exception: {SessionError.noActiveConnection}" ∉
      w.history := by
  intro he
  obtain ⟨c, hc⟩ := complaint_of_error h he rfl
  exact c.text_ne_noActiveConnection (Happening.log_injective hc).symm

end Tunnel
