import Tunnel.Proofs.Deeds

/-!
# Fronts

What of a world faces the client: the coordinator, the queue of the client's events, and what
happened to the client's close. Seen from there, a move of a world is a sequence of a few acts,
whatever else it does.

## Main definitions

* `closings` — what happened to the client's close.
* `Desk`, `Desk.Act` — the coordinator, which drivers and pumps work on too.
* `Front`, `Front.Act`, `World.front` — this with the client's chunks.

## Main statements

* `World.acts_of_move` — every move is a sequence of acts.
-/

namespace Tunnel

/-! ### What happens to the client's close -/

namespace Happening

/-- Whether the client's close is concerned. -/
def concernsClose : Happening → Bool
  | .closeSought _ | .closeCalled => true
  | _ => false

@[simp] theorem concernsClose_log (level : Log.Level) (d : Destination) (text : String) :
    (log level d text).concernsClose = false := rfl

theorem concernsClose_of_plain {e : Happening} (he : e.plain = true) : e.concernsClose = false := by
  cases e <;> first | rfl | cases he

end Happening

/-- What happened to the client's close. -/
def closings (h : List Happening) : List Happening := h.filter Happening.concernsClose

section closings

variable {e : Happening} {h h' : List Happening}

@[simp] theorem closings_nil : closings [] = [] := rfl

@[simp] theorem closings_append : closings (h ++ h') = closings h ++ closings h' :=
  List.filter_append ..

@[simp] theorem closings_cons :
    closings (e :: h) = (if e.concernsClose then [e] else []) ++ closings h := by
  unfold closings
  cases he : e.concernsClose <;> simp [he]

theorem Plain.closings (hh : Plain h) : closings h = [] :=
  List.filter_eq_nil_iff.mpr fun e he => by simp [Happening.concernsClose_of_plain (hh e he)]

end closings

/-! ### Desks -/

/-- The coordinator of a session, with what happened to the client's close. -/
@[ext]
structure Desk (σ : Type) where
  gate : Coordinator σ
  closings : List Happening

variable {σ : Type}

namespace Desk

/-- The desk after the coordinator has become `k` while this happened. -/
def after (x : Desk σ) (k : Coordinator σ) (h : List Happening) : Desk σ :=
  { gate := k, closings := x.closings ++ Tunnel.closings h }

/-- Nothing happens at a desk that is not about the client's close. -/
theorem after_gate_of {x : Desk σ} {h : List Happening} (hn : Tunnel.closings h = []) :
    x.after x.gate h = x := by
  simp [after, hn]

variable [ClientChannel σ]

/-- The client changes, or its close is requested. -/
inductive Act (x : Desk σ) : Desk σ → Prop
  | client (next : σ) : Act x (x.after { x.gate with client := next } [])
  | close (reason : String) : Act x (x.after (x.gate.close reason).2.1 (x.gate.close reason).2.2)

end Desk

namespace Plumbing

variable {q q' : Plumbing σ}

def desk (q : Plumbing σ) : Desk σ where
  gate := q.gate
  closings := closings q.trace.reverse

theorem desk_note (k : Coordinator σ) (h : List Happening) :
    ({ q with gate := k }.note h).desk = q.desk.after k h := by
  ext1 <;> simp [desk, note, Desk.after]

theorem desk_note_of {h : List Happening} (hn : closings h = []) : (q.note h).desk = q.desk := by
  have hd : (q.note h).desk = q.desk.after q.gate h := desk_note _ _
  exact hd.trans (Desk.after_gate_of hn)

variable [ClientChannel σ]

/-- A deed may be an act at the desk. -/
theorem Deed.desk (s : q.Deed q') : q'.desk = q.desk ∨ q.desk.Act q'.desk := by
  cases s with
  | note hh => exact .inl (desk_note_of hh.closings)
  | complain c => exact .inl (desk_note_of rfl)
  | client next =>
    right
    have hd : ({ q with gate := { q.gate with client := next } }.note []).desk = _ := desk_note _ []
    exact hd ▸ .client next
  | close reason =>
    right
    have hd : (q.close reason).desk = _ := desk_note _ _
    exact hd ▸ .close reason
  | transport ht => exact .inl (desk_note_of ht.plain.closings)
  | pumps => exact .inl rfl

end Plumbing

/-! ### Fronts -/

/-- What of a world faces the client. -/
@[ext]
structure Front (σ : Type) extends Desk σ where
  chunks : ChunkStream
  /-- Whether the session still takes the client's chunks. -/
  hears : Bool

namespace Front

variable [ClientChannel σ]

/-- One thing that can happen at the front. The client's chunks end with a request to close the
client, or when no more events can come; the session stops to take them when they have ended or
were cancelled. -/
inductive Act (x : Front σ) : Front σ → Prop
  | desk {d : Desk σ} : x.toDesk.Act d → Act x { x with toDesk := d }
  | events (q : EventQueue) : (x.chunks.events.senderGone = true → q.senderGone = true) →
      Act x { x with chunks := { x.chunks with events := q } }
  | finish : (x.gate.requested = true ∨ x.chunks.events.senderGone = true) →
      Act x { x with chunks := { x.chunks with finished := true } }
  | cancel : x.gate.requested = true →
      Act x { x with chunks := { x.chunks with cancelled := true } }
  | deafen : (x.chunks.finished = true ∨ x.chunks.cancelled = true) →
      Act x { x with hears := false }

/-- What becomes of a front while a world moves. -/
abbrev Acts : Front σ → Front σ → Prop := Relation.ReflTransGen Act

end Front

namespace World

variable {w w' : World σ}

/-- What of a world faces the client. -/
def front (w : World σ) : Front σ where
  toDesk := w.toPlumbing.desk
  chunks := w.chunks
  hears := w.session.clientOpen

theorem front_of_desk {q : Plumbing σ} (hd : q.desk = w.toPlumbing.desk) :
    ({ w with toPlumbing := q } : World σ).front = w.front := by
  unfold front
  rw [hd]

variable [ClientChannel σ] {lacks : Prop}

theorem Deed.acts (s : Deed lacks w w') : w.front.Acts w'.front := by
  cases s with
  | beside h =>
    rcases h.desk with hd | hd
    · exact front_of_desk hd ▸ .refl
    · exact .single (.desk hd)
  | miss =>
    have hd : ∀ text, (w.toPlumbing.log .error text).desk = w.toPlumbing.desk := fun _ =>
      Plumbing.desk_note_of rfl
    exact front_of_desk (hd _) ▸ .refl
  | session f hf =>
    have hf : (w.withSession f).front = w.front := Front.ext rfl rfl rfl hf
    exact hf ▸ .refl
  | events q hq => exact .single (.events q hq)
  | finish h => exact .single (.finish h)
  | cancel h => exact .single (.cancel h)
  | deafen h => exact .single (.deafen h)

theorem Deeds.acts (s : Deeds lacks w w') : w.front.Acts w'.front := by
  induction s with
  | refl => exact .refl
  | tail _ s ih => exact ih.trans s.acts

/-- Every move is a sequence of acts at the front. -/
theorem acts_of_move {m : Move σ} (h : w.move? m = some w') : w.front.Acts w'.front :=
  (deeds_of_move h).acts

/-- So is a run. -/
theorem acts_of_run {moves : List (Move σ)} (h : w.run? moves = some w') :
    w.front.Acts w'.front := by
  induction moves generalizing w with
  | nil =>
    cases h
    exact .refl
  | cons m rest ih =>
    obtain ⟨v, hv, hr⟩ := Option.bind_eq_some_iff.mp h
    exact (acts_of_move hv).trans (ih hr)

end World

end Tunnel
