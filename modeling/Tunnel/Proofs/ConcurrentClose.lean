import Mathlib.Data.List.Basic
import Tunnel.Client.Scripted
import Tunnel.Client.Shutdown

/-!
# Concurrent requests to close

Any number of callers request the close of one client. Their atomic steps are taken in any order,
and between any two of them the channel may change. Whoever swaps the flag first is the only one
that looks at the readiness, and calls the channel's close if it saw the channel open or closing;
all the others return without having touched anything.

## Main definitions

* `Caller.Event`, `Caller.Course` — what a caller does, and all it has done by where it is.
* `Crowd`, `Crowd.Act`, `Crowd.act?` — a coordinator with its callers, and what can happen.
* `Caller.Moves` — what a step of a caller can do.
* `Crowd.Exclusive` — only one caller acts.

## Main statements

* `Crowd.act?_step` — a step of a caller is such a move.
* `Crowd.Fits.run` — every caller keeps its course, and only one finds the flag clear.
* `Crowd.close_exclusive` — whatever happens in a crowd, only one caller acts.
-/

namespace Tunnel

/-! ### What a caller does -/

namespace Caller

/-- What a caller does in its atomic steps. -/
inductive Event
  /-- It swaps the flag, which was set before or was not. -/
  | swapped (set : Bool)
  | looked (state : ReadyState)
  | called (answer : Except ChannelError Unit)
  | returned (closed : Bool)

namespace Event

/-- Whether the readiness is looked at. -/
def looks : Event → Bool
  | looked _ => true
  | _ => false

/-- Whether the channel's close is called. -/
def calls : Event → Bool
  | called _ => true
  | _ => false

/-- Whether the request says that it closed the channel. -/
def succeeds : Event → Bool
  | returned closed => closed
  | _ => false

end Event

/-- All that a caller has done, by where it is. -/
inductive Course : Caller → List Event → Prop
  | entering : Course .entering []
  /-- The flag was set. -/
  | yielded : Course (.returned false) [.swapped true, .returned false]
  | first : Course .first [.swapped false]
  | committed {state : ReadyState} : state.closable = true →
      Course .committed [.swapped false, .looked state]
  | refrained {state : ReadyState} : state.closable = false →
      Course (.returned false) [.swapped false, .looked state, .returned false]
  | called {state : ReadyState} {answer : Except ChannelError Unit} : state.closable = true →
      Course (.returned answer.isOk)
        [.swapped false, .looked state, .called answer, .returned answer.isOk]

namespace Course

variable {caller : Caller} {events : List Event} (c : Course caller events)

include c

/-- Nothing is done twice. -/
theorem countP_le_one : events.countP Event.looks ≤ 1 ∧ events.countP Event.calls ≤ 1 ∧
    events.countP Event.succeeds ≤ 1 := by
  cases c with
  | entering | yielded | first | committed | refrained =>
    simp [List.countP_cons, Event.looks, Event.calls, Event.succeeds]
  | @called state answer =>
    cases answer <;> simp [List.countP_cons, Event.looks, Event.calls, Event.succeeds,
      Except.isOk, Except.toBool]

/-- Only a caller that found the flag clear does more than return in vain. -/
theorem swapped_false {e : Event} (he : e ∈ events)
    (h : e.looks = true ∨ e.calls = true ∨ e.succeeds = true) : .swapped false ∈ events := by
  cases c with
  | entering => cases he
  | yielded =>
    simp only [List.mem_cons, List.not_mem_nil, or_false] at he
    rcases he with rfl | rfl <;> simp [Event.looks, Event.calls, Event.succeeds] at h
  | first | committed | refrained | called => exact List.mem_cons_self

/-- The channel's close is called once it was seen open or closing, and not otherwise. -/
theorem called_iff : ((∃ answer, .called answer ∈ events) ∨ caller = .committed) ↔
    ∃ state, .looked state ∈ events ∧ state.closable = true := by
  cases c with
  | entering | yielded | first => simp
  | committed hc | refrained hc | called hc => simp [hc]

theorem returned_true_iff : .returned true ∈ events ↔ .called (.ok ()) ∈ events := by
  cases c with
  | entering | yielded | first | committed | refrained => simp
  | @called state answer => rcases answer with _ | ⟨⟨⟩⟩ <;> simp [Except.isOk, Except.toBool]

/-- A caller that finds the flag set returns at once. -/
theorem of_swapped_true (h : .swapped true ∈ events) :
    caller = .returned false ∧ events = [.swapped true, .returned false] := by
  cases c with
  | yielded => exact ⟨rfl, rfl⟩
  | entering | first | committed | refrained | called => simp at h

end Course

end Caller

/-! ### Crowds -/

variable {σ : Type}

/-- A coordinator with the callers that request the close, and their reasons. -/
structure Crowd (σ : Type) where
  gate : Coordinator σ
  callers : List (String × Caller) := []

namespace Crowd

/-- Callers by their numbers, with what they do. -/
abbrev Log := List (Nat × Caller.Event)

/-- What one of the callers does. -/
def eventsOf (n : Nat) (log : Log) : List Caller.Event :=
  (log.filter fun en => en.1 = n).map (·.2)

/-- A coordinator that nobody has asked for anything. -/
def start (client : σ) (d : Destination) : Crowd σ where
  gate := { client, destination := d }

section log

variable {n : Nat} {log : Log}

@[simp] theorem eventsOf_append (log now : Log) :
    eventsOf n (log ++ now) = eventsOf n log ++ eventsOf n now := by
  simp [eventsOf]

theorem mem_eventsOf {e : Caller.Event} : e ∈ eventsOf n log ↔ (n, e) ∈ log := by
  simp [eventsOf]

@[simp] theorem eventsOf_self (events : List Caller.Event) :
    eventsOf n (events.map (n, ·)) = events := by
  simp [eventsOf, List.filter_map, Function.comp_def]

theorem eventsOf_other {m : Nat} (h : m ≠ n) (events : List Caller.Event) :
    eventsOf m (events.map (n, ·)) = [] := by
  simp [eventsOf, h.symm]

end log

/-- How the callers, what they have done and the flag fit together. -/
structure Fits (s : Crowd σ) (log : Log) : Prop where
  course : ∀ (n : Nat) (reason : String) (caller : Caller),
    s.callers[n]? = some (reason, caller) → caller.Course (eventsOf n log)
  present : ∀ en ∈ log, en.1 < s.callers.length
  requested : s.gate.requested = true ↔ ∃ n set, (n, .swapped set) ∈ log
  /-- Only one caller finds the flag clear. -/
  winner : ∀ m n, (m, .swapped false) ∈ log → (n, .swapped false) ∈ log → m = n

namespace Fits

variable {s : Crowd σ} {log : Log}

theorem start (client : σ) (d : Destination) : (Crowd.start client d).Fits [] := by
  refine ⟨?_, ?_, ?_, ?_⟩ <;> simp [Crowd.start]

/-- Who has not come yet has done nothing. -/
theorem eventsOf_eq_nil {n : Nat} (f : s.Fits log) (hn : s.callers[n]? = none) :
    eventsOf n log = [] := by
  refine List.eq_nil_iff_forall_not_mem.mpr fun e he => ?_
  have hl := f.present _ (mem_eventsOf.mp he)
  exact absurd (List.getElem?_eq_none_iff.mp hn) (Nat.not_le_of_lt hl)

theorem enter (f : s.Fits log) (reason : String) :
    Fits { s with callers := s.callers ++ [(reason, .entering)] } log := by
  refine ⟨fun n r caller hn => ?_, fun en hm => ?_, f.requested, f.winner⟩
  · rcases Nat.lt_or_ge n s.callers.length with hl | hl
    · rw [List.getElem?_append_left hl] at hn
      exact f.course n r caller hn
    · have hnone := f.eventsOf_eq_nil (List.getElem?_eq_none hl)
      rw [List.getElem?_append_right hl, List.getElem?_singleton] at hn
      split at hn
      · cases hn
        exact hnone ▸ .entering
      · cases hn
  · rw [List.length_append]
    exact Nat.lt_add_right _ (f.present en hm)

/-- A caller that has done something is there, and has kept its course. -/
theorem course_of_mem {n : Nat} {e : Caller.Event} (f : s.Fits log) (h : (n, e) ∈ log) :
    ∃ reason caller, s.callers[n]? = some (reason, caller) ∧ caller.Course (eventsOf n log) := by
  obtain ⟨⟨reason, caller⟩, hn⟩ : ∃ x, s.callers[n]? = some x :=
    ⟨_, List.getElem?_eq_getElem (f.present _ h)⟩
  exact ⟨reason, caller, hn, f.course n reason caller hn⟩

/-- What each caller does at most once, and only if it found the flag clear, happens at most
once. -/
theorem countP_le_one {p : Caller.Event → Bool} (f : s.Fits log)
    (hp : ∀ caller events, Caller.Course caller events →
      events.countP p ≤ 1 ∧ ∀ e ∈ events, p e = true → .swapped false ∈ events) :
    log.countP (fun en => p en.2) ≤ 1 := by
  by_cases h : ∃ n e, (n, e) ∈ log ∧ p e = true
  · obtain ⟨n, e, hm, he⟩ := h
    have hwon : ∀ m e', (m, e') ∈ log → p e' = true → (m, .swapped false) ∈ log := by
      intro m e' hm' he'
      obtain ⟨_, caller, -, hc⟩ := f.course_of_mem hm'
      exact mem_eventsOf.mp ((hp caller _ hc).2 e' (mem_eventsOf.mpr hm') he')
    -- All of it is done by the one that found the flag clear.
    have hall : log.countP (fun en => p en.2) = (eventsOf n log).countP p := by
      rw [eventsOf, List.countP_map, List.countP_filter]
      refine List.countP_congr fun en hm' => ?_
      obtain ⟨m, e'⟩ := en
      simp only [Function.comp_apply, Bool.and_eq_true, decide_eq_true_eq, iff_self_and]
      exact fun he' => f.winner m n (hwon m e' hm' he') (hwon n e hm he)
    obtain ⟨_, caller, -, hc⟩ := f.course_of_mem hm
    exact hall ▸ (hp caller _ hc).1
  · have hnone : log.countP (fun en => p en.2) = 0 :=
      List.countP_eq_zero.mpr fun en hm he => h ⟨en.1, en.2, hm, he⟩
    omega

end Fits

/-! ### Steps -/

/-- What can happen. -/
inductive Act (σ : Type)
  /-- One more caller requests the close. -/
  | enter (reason : String)
  /-- Caller number `n` takes its next step. -/
  | step (n : Nat)
  /-- The channel changes on its own. -/
  | turn (change : σ → σ)

end Crowd

variable [ClientChannel σ]

namespace Caller

variable {k k' : Coordinator σ} {before after caller : Caller} {events now : List Event}

/-- What is seen of a step that takes a caller from one place to another. -/
def seen (k : Coordinator σ) (before after : Caller) : List Event :=
  let did := match before with
    | .entering => [.swapped k.requested]
    | .first => [.looked (ClientChannel.readyState k.client)]
    | .committed => [.called (ClientChannel.close k.client).1]
    | .returned _ => []
  match after with
  | .returned closed => did ++ [.returned closed]
  | .entering | .first | .committed => did

/-- What a step of a caller can do, to itself and to the coordinator. -/
inductive Moves (k : Coordinator σ) : Caller → Caller → Coordinator σ → List Event → Prop
  | yield : k.requested = true →
      Moves k .entering (.returned false) k [.swapped true, .returned false]
  | win : k.requested = false →
      Moves k .entering .first { k with requested := true } [.swapped false]
  | commit : (ClientChannel.readyState k.client).closable = true →
      Moves k .first .committed k [.looked (ClientChannel.readyState k.client)]
  | refrain : (ClientChannel.readyState k.client).closable = false →
      Moves k .first (.returned false) k
        [.looked (ClientChannel.readyState k.client), .returned false]
  | call {answer : Except ChannelError Unit} {client : σ} :
      ClientChannel.close k.client = (answer, client) →
      Moves k .committed (.returned answer.isOk) { k with client }
        [.called answer, .returned answer.isOk]

theorem step_moves {reason : String} {h : List Happening}
    (hs : before.step reason k = some (after, k', h)) :
    Moves k before after k' (before.seen k after) := by
  cases before with
  | entering =>
    cases hr : k.requested with
    | true =>
      simp only [step, hr, if_true] at hs
      cases hs
      simpa [seen, hr] using Moves.yield hr
    | false =>
      simp only [step, hr, Bool.false_eq_true, if_false] at hs
      cases hs
      simpa [seen, hr] using Moves.win hr
  | first =>
    cases hc : (ClientChannel.readyState k.client).closable with
    | true =>
      simp only [step, hc, if_true] at hs
      cases hs
      exact .commit hc
    | false =>
      simp only [step, hc, Bool.false_eq_true, if_false] at hs
      cases hs
      exact .refrain hc
  | committed =>
    rcases hc : ClientChannel.close k.client with ⟨answer, client⟩
    have hm : Moves k .committed (.returned answer.isOk) { k with client }
        (seen k .committed (.returned answer.isOk)) := by
      simp only [seen, hc]
      exact .call hc
    cases answer <;> simp only [step, callClose, hc] at hs <;> cases hs <;> exact hm
  | returned => cases hs

/-- A caller that has not returned can go on, whatever the others do. -/
theorem step_isSome (reason : String) (k : Coordinator σ)
    (h : ∀ closed, caller ≠ .returned closed) : (caller.step reason k).isSome := by
  cases caller with
  | entering => by_cases hr : k.requested <;> simp [step, hr]
  | first => by_cases hc : (ClientChannel.readyState k.client).closable <;> simp [step, hc]
  | committed => rfl
  | returned closed => exact absurd rfl (h closed)

theorem Course.move (c : Course before events) (m : Moves k before after k' now) :
    Course after (events ++ now) := by
  cases m with
  | yield =>
    cases c
    exact .yielded
  | win =>
    cases c
    exact .first
  | commit hc =>
    cases c
    exact .committed hc
  | refrain hc =>
    cases c
    exact .refrained hc
  | call =>
    cases c with
    | committed hc => exact .called hc

namespace Moves

variable (m : Moves k before after k' now)

include m

/-- Only a step that swaps changes the flag, and only by setting it. -/
theorem requested : k'.requested = true ↔ k.requested = true ∨ ∃ set, .swapped set ∈ now := by
  cases m with
  | yield hr | win hr => simp [hr]
  | commit | refrain | call => simp

theorem requested_eq_false (h : .swapped false ∈ now) : k.requested = false := by
  cases m with
  | win hr => exact hr
  | yield | commit | refrain | call => simp at h

/-- A caller that finds the flag set leaves everything as it was. -/
theorem eq_of_swapped_true (h : .swapped true ∈ now) : k' = k := by
  cases m with
  | yield => rfl
  | win | commit | refrain | call => simp at h

end Moves

end Caller

namespace Crowd

variable {s s' : Crowd σ} {log now : Log} {a : Act σ} {acts : List (Act σ)} {n : Nat}

/-- What an act does and what the callers do in it; `none` if it is impossible. -/
def act? (s : Crowd σ) : Act σ → Option (Crowd σ × Log)
  | .enter reason => some ({ s with callers := s.callers ++ [(reason, .entering)] }, [])
  | .step n => (s.callers[n]?).bind fun (reason, before) =>
    (before.step reason s.gate).map fun (after, gate, _) =>
      ({ gate, callers := s.callers.set n (reason, after) },
        (before.seen s.gate after).map (n, ·))
  | .turn change => some ({ s with gate := { s.gate with client := change s.gate.client } }, [])

/-- A sequence of acts with all that the callers do; `none` if one of them is impossible. -/
def run? (s : Crowd σ) : List (Act σ) → Option (Crowd σ × Log)
  | [] => some (s, [])
  | a :: rest =>
    (s.act? a).bind fun (s', now) => (run? s' rest).map fun (s'', later) => (s'', now ++ later)

/-- A step of a caller. -/
theorem act?_step (h : s.act? (.step n) = some (s', now)) :
    ∃ reason before after gate events, s.callers[n]? = some (reason, before) ∧
      before.Moves s.gate after gate events ∧ now = events.map (n, ·) ∧
      s' = { gate, callers := s.callers.set n (reason, after) } := by
  obtain ⟨⟨reason, before⟩, hn, h⟩ := Option.bind_eq_some_iff.mp h
  obtain ⟨⟨after, gate, _⟩, hs, h⟩ := Option.map_eq_some_iff.mp h
  cases h
  exact ⟨reason, before, after, gate, _, hn, Caller.step_moves hs, rfl, rfl⟩

namespace Fits

theorem move {reason : String} {before after : Caller} {gate : Coordinator σ}
    {events : List Caller.Event} (f : s.Fits log) (hn : s.callers[n]? = some (reason, before))
    (m : before.Moves s.gate after gate events) :
    Fits { gate, callers := s.callers.set n (reason, after) } (log ++ events.map (n, ·)) := by
  have hl := (List.getElem?_eq_some_iff.mp hn).1
  refine ⟨fun i r caller hi => ?_, fun en hm => ?_, ?_, ?_⟩
  · rcases eq_or_ne i n with rfl | hne
    · rw [List.getElem?_set_self hl] at hi
      cases hi
      rw [eventsOf_append, eventsOf_self]
      exact (f.course i reason before hn).move m
    · rw [List.getElem?_set_ne hne.symm] at hi
      rw [eventsOf_append, eventsOf_other hne, List.append_nil]
      exact f.course i r caller hi
  · rw [List.length_set]
    rcases List.mem_append.mp hm with hm | hm
    · exact f.present en hm
    · obtain ⟨e, -, rfl⟩ := List.mem_map.mp hm
      exact hl
  · rw [m.requested, f.requested]
    simp [or_and_right, exists_or]
  · -- A caller that finds the flag clear is the first to swap it.
    have hnew : ∀ i, (i, .swapped false) ∈ events.map (n, ·) →
        i = n ∧ ∀ j, (j, .swapped false) ∉ log := by
      intro i hm
      obtain ⟨e, he, hi⟩ := List.mem_map.mp hm
      cases hi
      refine ⟨rfl, fun j hj => ?_⟩
      have hr := m.requested_eq_false he
      rw [f.requested.mpr ⟨j, false, hj⟩] at hr
      cases hr
    intro i j hi hj
    rcases List.mem_append.mp hi with hi | hi <;> rcases List.mem_append.mp hj with hj | hj
    · exact f.winner i j hi hj
    · exact absurd hi ((hnew j hj).2 i)
    · exact absurd hj ((hnew i hi).2 j)
    · rw [(hnew i hi).1, (hnew j hj).1]

theorem act (f : s.Fits log) (h : s.act? a = some (s', now)) : s'.Fits (log ++ now) := by
  cases a with
  | enter reason =>
    cases h
    simpa using f.enter reason
  | step n =>
    obtain ⟨reason, before, after, gate, events, hn, m, rfl, rfl⟩ := act?_step h
    exact f.move hn m
  | turn change =>
    cases h
    rw [List.append_nil]
    exact ⟨f.course, f.present, f.requested, f.winner⟩

theorem run (f : s.Fits log) (h : s.run? acts = some (s', now)) : s'.Fits (log ++ now) := by
  induction acts generalizing s log now with
  | nil =>
    cases h
    simpa using f
  | cons a rest ih =>
    obtain ⟨⟨s₁, first⟩, ha, h⟩ := Option.bind_eq_some_iff.mp h
    obtain ⟨⟨s₂, later⟩, hr, he⟩ := Option.map_eq_some_iff.mp h
    cases he
    rw [← List.append_assoc]
    exact ih (f.act ha) hr

end Fits

/-! ### One caller acts -/

/-- Only one caller acts. -/
structure Exclusive (s : Crowd σ) (log : Log) : Prop where
  course : ∀ (n : Nat) (reason : String) (caller : Caller),
    s.callers[n]? = some (reason, caller) → caller.Course (eventsOf n log)
  /-- A caller that has not returned can go on. -/
  goesOn : ∀ (n : Nat) (reason : String) (caller : Caller),
    s.callers[n]? = some (reason, caller) → (∀ closed, caller ≠ .returned closed) →
    (s.act? (.step n)).isSome
  looks : log.countP (fun en => en.2.looks) ≤ 1
  calls : log.countP (fun en => en.2.calls) ≤ 1
  succeeds : log.countP (fun en => en.2.succeeds) ≤ 1
  /-- The channel's close is called, at the next step of the caller at the latest, if and only if
  the channel was seen open or closing. -/
  called_iff : ∀ n, ((∃ answer, (n, .called answer) ∈ log) ∨
      ∃ reason, s.callers[n]? = some (reason, .committed)) ↔
    ∃ state, (n, .looked state) ∈ log ∧ state.closable = true
  returned_true_iff : ∀ n, (n, .returned true) ∈ log ↔ (n, .called (.ok ())) ∈ log
  /-- The flag is set from the first swap on. -/
  requested : s.gate.requested = true ↔ ∃ n set, (n, .swapped set) ∈ log
  /-- Who finds the flag set returns at once and does nothing else. -/
  yields : ∀ n, (n, .swapped true) ∈ log → eventsOf n log = [.swapped true, .returned false]
  untouched : ∀ n s' now, s.act? (.step n) = some (s', now) → (n, .swapped true) ∈ now →
    s'.gate = s.gate

theorem Fits.exclusive (f : s.Fits log) : s.Exclusive log where
  course := f.course
  goesOn n reason caller hn h := by
    simp [act?, hn, Caller.step_isSome reason s.gate h]
  looks := f.countP_le_one fun _ _ c =>
    ⟨c.countP_le_one.1, fun _ he h => c.swapped_false he (.inl h)⟩
  calls := f.countP_le_one fun _ _ c =>
    ⟨c.countP_le_one.2.1, fun _ he h => c.swapped_false he (.inr (.inl h))⟩
  succeeds := f.countP_le_one fun _ _ c =>
    ⟨c.countP_le_one.2.2, fun _ he h => c.swapped_false he (.inr (.inr h))⟩
  called_iff n := by
    simp only [← mem_eventsOf]
    cases hn : s.callers[n]? with
    | none => simp [f.eventsOf_eq_nil hn]
    | some x =>
      obtain ⟨reason, caller⟩ := x
      simpa using (f.course n reason caller hn).called_iff
  returned_true_iff n := by
    simp only [← mem_eventsOf]
    cases hn : s.callers[n]? with
    | none => simp [f.eventsOf_eq_nil hn]
    | some x =>
      obtain ⟨reason, caller⟩ := x
      exact (f.course n reason caller hn).returned_true_iff
  requested := f.requested
  yields n hm := by
    obtain ⟨_, caller, -, c⟩ := f.course_of_mem hm
    exact (c.of_swapped_true (mem_eventsOf.mpr hm)).2
  untouched n s' now h hm := by
    obtain ⟨_, _, _, gate, events, -, m, rfl, rfl⟩ := act?_step h
    exact m.eq_of_swapped_true (by simpa using hm)

/-- Whatever callers request the close of a client, in whatever order they take their steps and
whatever the channel does in between, only one of them acts; and the flag, once set, stays set. -/
theorem close_exclusive {client : σ} {d : Destination}
    (h : (start client d).run? acts = some (s, log)) :
    s.Exclusive log ∧
    ∀ more s' later, s.run? more = some (s', later) → s.gate.requested = true →
      s'.gate.requested = true := by
  have f : s.Fits log := (Fits.start client d).run h
  refine ⟨f.exclusive, fun more s' later hmore hr => ?_⟩
  obtain ⟨n, set, hm⟩ := f.requested.mp hr
  exact (f.run hmore).requested.mpr ⟨n, set, List.mem_append_left _ hm⟩

/-- The first caller has seen the channel closing, and the second has found the flag set. -/
def contended : Crowd ScriptedClient where
  gate := {
    client := { code := 2 }, destination := { host := "first", port := 80 }, requested := true }
  callers := [("client closed", .committed), ("remote ended", .returned false)]

/-- The first caller has closed the channel, and a third has found the flag set. -/
def settled : Crowd ScriptedClient where
  gate := { contended.gate with client := { code := 3 } }
  callers := [("client closed", .returned true), ("remote ended", .returned false),
    ("client failed", .returned false)]

/-- The second caller comes while the first is between its steps, the channel changes before the
first looks at it, and the third comes when all is over. -/
theorem close_exclusive_contended : ∃ acts more log later,
    (start ({} : ScriptedClient) { host := "first", port := 80 }).run? acts =
      some (contended, log) ∧
    contended.run? more = some (settled, later) ∧
    log = [(0, .swapped false), (1, .swapped true), (1, .returned false), (0, .looked .closing)] ∧
    later = [(0, .called (.ok ())), (0, .returned true), (2, .swapped true),
      (2, .returned false)] ∧
    contended.Exclusive log ∧ settled.gate.requested = true := by
  let acts : List (Act ScriptedClient) := [.enter "client closed", .step 0,
    .enter "remote ended", .turn fun c => { c with code := 2 }, .step 1, .step 0]
  let more : List (Act ScriptedClient) := [.step 0, .enter "client failed", .step 2]
  let log : Log :=
    [(0, .swapped false), (1, .swapped true), (1, .returned false), (0, .looked .closing)]
  let later : Log :=
    [(0, .called (.ok ())), (0, .returned true), (2, .swapped true), (2, .returned false)]
  have hrun : (start ({} : ScriptedClient) { host := "first", port := 80 }).run? acts =
    some (contended, log) := rfl
  have hmore : contended.run? more = some (settled, later) := rfl
  obtain ⟨hexclusive, hset⟩ := close_exclusive hrun
  exact ⟨acts, more, log, later, hrun, hmore, rfl, rfl, hexclusive,
    hset more settled later hmore rfl⟩

end Crowd

end Tunnel
