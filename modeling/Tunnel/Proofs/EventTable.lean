import Mathlib.Data.List.Basic
import Tunnel.Client.ChunkStream

/-!
# The table of events

What a channel's events give on the stream of its chunks, as a table: a message is a chunk, a close
the end and an error a failure; on a cancelled stream, messages and closes give nothing and errors
still show. The stream is compared with an automaton that looks its answers up in this table,
while events come, the stream is polled and any clone of its handle cancels it, in any order.

## Main definitions

* `EventTable`, `EventTable.answer` — the automaton, and what a poll of it gives and consumes.
* `Coordinator.heed` — what consuming an event does to the client.
* `Intake`, `Intake.Act`, `Intake.act` — a stream with its coordinator, and what is done with it.
* `perform` — act by act, with all answers and all that happens.

## Main statements

* `ChunkStream.poll_eq` — a poll of the stream is a look into the table.
* `Intake.perform_eq` — any acts have the same answers and effects on both.
* `Intake.follows_table` — this, and what it means for chunks and cancellations.
-/

namespace Tunnel

namespace ChannelEvent

/-- Whether the event is an error. -/
def fails : ChannelEvent → Bool
  | .error _ => true
  | _ => false

/-- Whether the event is a message. -/
def carries : ChannelEvent → Bool
  | .message _ => true
  | _ => false

/-- What the event gives on the stream, if it gives something. -/
def item : ChannelEvent → Poll
  | .message data => .chunk data
  | .close => .ended
  | .error e => .failed e

end ChannelEvent

namespace Poll

/-- Whether nothing follows but the end. -/
def final : Poll → Bool
  | .ended | .failed _ => true
  | .chunk _ | .pending => false

/-- The chunk that the poll gives, if it gives one. -/
def chunk? : Poll → Option Bytes
  | .chunk data => some data
  | _ => none

end Poll

/-! ### The automaton -/

/-- A queue of events, and what is known of it and of the stream. -/
@[ext]
structure EventTable where
  capacity : Nat
  waiting : List ChannelEvent := []
  /-- Whether more events may come. -/
  live : Bool := true
  cancelled : Bool := false
  /-- Whether the stream has ended or failed. -/
  finished : Bool := false
  /-- Whether the stream was dropped. -/
  dropped : Bool := false

namespace EventTable

/-- What a poll gives, with the events that it consumes. -/
def answer (t : EventTable) : Poll × List ChannelEvent :=
  let exhausted : Poll := if t.live then .pending else .ended
  if t.finished then (.ended, [])
  else if t.cancelled then
    match t.waiting.find? (·.fails) with
    | some e => (e.item, t.waiting.takeWhile (!·.fails) ++ [e])
    | none => (exhausted, t.waiting)
  else match t.waiting with
    | e :: _ => (e.item, [e])
    | [] => (exhausted, [])

/-- The table after a poll. -/
def next (t : EventTable) : EventTable :=
  { t with
    waiting := t.waiting.drop t.answer.2.length
    finished := t.finished || t.answer.1.final }

/-- How an event is taken that is fired while more may come. -/
def offer (t : EventTable) (e : ChannelEvent) : Offer × EventTable :=
  if t.dropped then (.gone, t)
  else if t.capacity ≤ t.waiting.length then (.full, t)
  else (.queued, { t with waiting := t.waiting ++ [e] })

variable {t : EventTable} {data : Bytes}

theorem answer_of_finished (h : t.finished) : t.answer = (.ended, []) := by
  simp [answer, h]

/-- A chunk is given only for a message that comes first, and not after a cancellation. -/
theorem answer_chunk (h : t.answer.1 = .chunk data) : t.finished = false ∧ t.cancelled = false ∧
    t.answer.2 = [.message data] ∧ t.waiting.head? = some (.message data) := by
  obtain ⟨capacity, waiting, live, cancelled, finished, dropped⟩ := t
  cases finished
  · cases cancelled
    · rcases waiting with _ | ⟨_ | _ | e, waiting⟩ <;> cases live <;>
        simp_all [answer, ChannelEvent.item]
    · exfalso
      cases hf : waiting.find? (·.fails) with
      | none => cases live <;> simp [answer, hf] at h
      | some e =>
        have he : e.fails = true := by simpa using List.find?_some hf
        cases e with
        | error err => simp [answer, hf, ChannelEvent.item] at h
        | message | close => cases he
  · simp [answer] at h

/-- A poll gives nothing yet only if no event waits, or all were given up. -/
theorem answer_pending (h : t.answer.1 = .pending) : t.cancelled = true ∨ t.waiting = [] := by
  obtain ⟨capacity, waiting, live, cancelled, finished, dropped⟩ := t
  rcases waiting with _ | ⟨_ | _ | e, waiting⟩ <;> cases cancelled <;> cases finished <;>
    simp_all [answer, ChannelEvent.item]

end EventTable

/-! ### What consuming events does to the client -/

variable {σ : Type} [ClientChannel σ]

namespace Coordinator

/-- A close or an error that is consumed requests the close of the client. -/
def heed (k : Coordinator σ) : ChannelEvent → Coordinator σ × List Happening
  | .message _ => (k, [])
  | .close => (k.close "client channel closed").2
  | .error e =>
    let (_, k', happened) := k.close "client channel error"
    (k', .log .warn k.destination s!"client channel has error: {e}" :: happened)

/-- Events are consumed one after the other. -/
def heedAll (k : Coordinator σ) : List ChannelEvent → Coordinator σ × List Happening
  | [] => (k, [])
  | e :: rest =>
    let (k, now) := k.heed e
    let (k, later) := k.heedAll rest
    (k, now ++ later)

end Coordinator

/-! ### Polls -/

namespace ChunkStream

/-- The automaton that a stream stands for. -/
@[simps]
def table (s : ChunkStream) : EventTable where
  capacity := s.events.capacity
  waiting := s.events.waiting
  live := !s.events.senderGone
  cancelled := s.cancelled
  finished := s.finished
  dropped := s.events.receiverGone

theorem produce_eq (cancelled : Bool) (k : Coordinator σ) (e : ChannelEvent) :
    produce cancelled k e =
      (if cancelled && !e.fails then none else some e.item, k.heed e) := by
  cases e <;> cases cancelled <;> rfl

/-- Without a cancellation the first event produces something. -/
theorem consume_cons_of_not_cancelled (k : Coordinator σ) (e : ChannelEvent)
    (events : List ChannelEvent) :
    consume false k (e :: events) = (some e.item, events, k.heed e) := by
  simp [consume, produce_eq]

/-- After a cancellation only an error produces something. -/
theorem consume_of_cancelled (k : Coordinator σ) (events : List ChannelEvent) :
    consume true k events =
      match events.find? (·.fails) with
      | some e => (some e.item, events.drop ((events.takeWhile (!·.fails)).length + 1),
          k.heedAll (events.takeWhile (!·.fails) ++ [e]))
      | none => (none, [], k.heedAll events) := by
  induction events generalizing k with
  | nil => rfl
  | cons e events ih =>
    by_cases he : e.fails
    · simp [consume, produce_eq, he, Coordinator.heedAll]
    · simp only [consume, produce_eq, he, Bool.not_false, Bool.and_true, if_true, ih,
        List.find?_cons, List.takeWhile_cons]
      cases hf : events.find? (·.fails) <;> simp [Coordinator.heedAll]

/-- A poll gives what the table says, consumes these events and heeds them. -/
theorem poll_eq (s : ChunkStream) (k : Coordinator σ) :
    (s.poll k).1 = s.table.answer.1 ∧ (s.poll k).2.1.table = s.table.next ∧
      (s.poll k).2.2 = k.heedAll s.table.answer.2 := by
  by_cases ho : s.finished
  · simp [poll, EventTable.answer, EventTable.next, ho, Coordinator.heedAll, EventTable.ext_iff]
  by_cases hc : s.cancelled
  · have hk := consume_of_cancelled k s.events.waiting
    cases hf : s.events.waiting.find? (·.fails) with
    | none =>
      rw [hf] at hk
      by_cases hg : s.events.senderGone <;>
        simp [poll, EventTable.answer, EventTable.next, ho, hc, hk, hf, hg, Poll.final,
          EventTable.ext_iff]
    | some e =>
      rw [hf] at hk
      have he : e.fails = true := by simpa using List.find?_some hf
      cases e with
      | error err =>
        simp [poll, EventTable.answer, EventTable.next, ho, hc, hk, hf, ChannelEvent.item,
          Poll.final, EventTable.ext_iff]
      | message | close => cases he
  · cases hw : s.events.waiting with
    | nil =>
      by_cases hg : s.events.senderGone <;>
        simp [poll, consume, EventTable.answer, EventTable.next, ho, hc, hw, hg, Poll.final,
          Coordinator.heedAll, EventTable.ext_iff]
    | cons e events =>
      have hk := consume_cons_of_not_cancelled k e events
      cases e <;>
        simp [poll, EventTable.answer, EventTable.next, ho, hc, hw, hk, ChannelEvent.item,
          Poll.final, Coordinator.heedAll, EventTable.ext_iff]

end ChunkStream

/-! ### Acts -/

/-- A stream with the coordinator through which it closes the client. -/
structure Intake (σ : Type) where
  chunks : ChunkStream
  gate : Coordinator σ

namespace Intake

/-- What is done with a stream, or happens around it. -/
inductive Act (σ : Type)
  /-- The channel fires an event. -/
  | fire (e : ChannelEvent)
  /-- No more events will come. -/
  | dropSource
  | dropStream
  | poll
  /-- One of the clones of the handle cancels the stream. -/
  | cancel (handle : Nat) (reason : String)
  /-- The client changes by itself. -/
  | client (next : σ)
  /-- Somebody else requests the close of the client. -/
  | close (reason : String)

/-- What is answered to an act. -/
inductive Answer
  | offered (e : ChannelEvent) (offer : Offer)
  | polled (item : Poll)
  | cancelled (handle : Nat) (first : Bool)
  deriving DecidableEq, Repr

/-- An act on a stream, with what is answered and what happens. A source that is gone fires
nothing, and a stream that was dropped is not polled. -/
def act (x : Intake σ) : Act σ → Intake σ × List Answer × List Happening
  | .fire e =>
    if x.chunks.events.senderGone then (x, [], [])
    else
      let (offer, events) := x.chunks.events.offer e
      ({ x with chunks := { x.chunks with events } }, [.offered e offer], [])
  | .dropSource =>
    ({ x with chunks := { x.chunks with events := x.chunks.events.dropSender } }, [], [])
  | .dropStream =>
    ({ x with chunks := { x.chunks with events := x.chunks.events.dropReceiver } }, [], [])
  | .poll =>
    if x.chunks.events.receiverGone then (x, [], [])
    else
      let (item, chunks, gate, happened) := x.chunks.poll x.gate
      ({ chunks, gate }, [.polled item], happened)
  | .cancel handle reason =>
    let (first, chunks, gate, happened) := x.chunks.cancel x.gate reason
    ({ chunks, gate }, [.cancelled handle first], happened)
  | .client next => ({ x with gate := { x.gate with client := next } }, [], [])
  | .close reason =>
    let (_, gate, happened) := x.gate.close reason
    ({ x with gate }, [], happened)

end Intake

/-- The same act on the automaton. -/
def EventTable.act (x : EventTable × Coordinator σ) :
    Intake.Act σ → (EventTable × Coordinator σ) × List Intake.Answer × List Happening
  | .fire e =>
    if x.1.live then
      let (offer, t) := x.1.offer e
      ((t, x.2), [.offered e offer], [])
    else (x, [], [])
  | .dropSource => (({ x.1 with live := false }, x.2), [], [])
  | .dropStream => (({ x.1 with waiting := [], dropped := true }, x.2), [], [])
  | .poll =>
    if x.1.dropped then (x, [], [])
    else
      let (k, happened) := x.2.heedAll x.1.answer.2
      ((x.1.next, k), [.polled x.1.answer.1], happened)
  | .cancel handle reason =>
    if x.1.cancelled then (x, [.cancelled handle false], [])
    else
      let note := .log .info x.2.destination s!"client stream was cancelled, due to {reason}"
      let (_, k, happened) := x.2.close "client stream cancelled"
      (({ x.1 with cancelled := true }, k), [.cancelled handle true], note :: happened)
  | .client next => ((x.1, { x.2 with client := next }), [], [])
  | .close reason =>
    let (_, k, happened) := x.2.close reason
    ((x.1, k), [], happened)

/-- Act by act, with all that is answered and all that happens. -/
def perform {S A B : Type} (act : S → A → S × List B × List Happening) :
    S → List A → S × List B × List Happening
  | s, [] => (s, [], [])
  | s, a :: rest =>
    let (s, answers, now) := act s a
    let (s, further, later) := perform act s rest
    (s, answers ++ further, now ++ later)

namespace Intake

/-- The automaton that the stream stands for, with the coordinator. -/
def table (x : Intake σ) : EventTable × Coordinator σ := (x.chunks.table, x.gate)

omit [ClientChannel σ] in
@[simp] theorem table_fst (x : Intake σ) : x.table.1 = x.chunks.table := rfl

omit [ClientChannel σ] in
@[simp] theorem table_snd (x : Intake σ) : x.table.2 = x.gate := rfl

theorem table_act (x : Intake σ) (a : Act σ) :
    EventTable.act x.table a = ((x.act a).1.table, (x.act a).2) := by
  cases a with
  | fire e =>
    by_cases hg : x.chunks.events.senderGone
    · simp [act, EventTable.act, hg]
    · unfold act EventTable.act EventTable.offer EventQueue.offer
      by_cases hr : x.chunks.events.receiverGone
      · simp [hg, hr, table]
      · by_cases hc : x.chunks.events.capacity ≤ x.chunks.events.waiting.length <;>
          simp [hg, hr, hc, table, EventTable.ext_iff]
  | poll =>
    by_cases hr : x.chunks.events.receiverGone
    · simp [act, EventTable.act, hr]
    · obtain ⟨hitem, hnext, hheed⟩ := x.chunks.poll_eq x.gate
      simp [act, EventTable.act, hr, table, ← hitem, ← hnext, ← hheed]
  | cancel handle reason =>
    by_cases hc : x.chunks.cancelled <;>
      simp [act, EventTable.act, ChunkStream.cancel, hc, table, EventTable.ext_iff]
  | dropSource | dropStream | client | close => rfl

/-- Any acts have the same answers and effects on the stream and on the automaton. -/
theorem perform_eq (x : Intake σ) (acts : List (Act σ)) :
    perform EventTable.act x.table acts =
      ((perform act x acts).1.table, (perform act x acts).2) := by
  induction acts generalizing x with
  | nil => rfl
  | cons a rest ih => simp [perform, table_act, ih]

theorem perform_induction {S A B : Type} {act : S → A → S × List B × List Happening}
    {P : S → List B → Prop} (hstep : ∀ s a r, P s r → P (act s a).1 (r ++ (act s a).2.1))
    {s : S} {r : List B} (h : P s r) (acts : List A) :
    P (perform act s acts).1 (r ++ (perform act s acts).2.1) := by
  induction acts generalizing s r with
  | nil => simpa [perform] using h
  | cons a rest ih =>
    have ha := ih (hstep s a r h)
    rwa [List.append_assoc] at ha

/-! ### What the answers say together -/

namespace Answer

/-- The event that was taken into the queue. -/
def queued? : Answer → Option ChannelEvent
  | .offered e .queued => some e
  | _ => none

/-- The chunk that was given. -/
def chunk? : Answer → Option Bytes
  | .polled item => item.chunk?
  | _ => none

/-- Whether a cancellation was the first. -/
def first? : Answer → Option Bool
  | .cancelled _ first => some first
  | _ => none

/-- Whether the stream ended or failed. -/
def final : Answer → Bool
  | .polled item => item.final
  | _ => false

end Answer

/-- The events that were taken into the queue, in order. -/
def queued (r : List Answer) : List ChannelEvent := r.filterMap Answer.queued?

/-- The chunks that polls gave, in order. -/
def yielded (r : List Answer) : List Bytes := r.filterMap Answer.chunk?

/-- What the calls of cancel returned, in order. -/
def cancellations (r : List Answer) : List Bool := r.filterMap Answer.first?

section

variable (r : List Answer) (a : Answer)

theorem queued_concat : queued (r ++ [a]) = queued r ++ a.queued?.toList := by
  cases h : a.queued? <;> simp [queued, h]

theorem yielded_concat : yielded (r ++ [a]) = yielded r ++ a.chunk?.toList := by
  cases h : a.chunk? <;> simp [yielded, h]

theorem cancellations_concat :
    cancellations (r ++ [a]) = cancellations r ++ a.first?.toList := by
  cases h : a.first? <;> simp [cancellations, h]

end

end Intake

open Intake

/-- How the automaton and the answers so far fit together. -/
structure EventTable.Sound (t : EventTable) (r : List Answer) : Prop where
  /-- What was queued is what was given and what is yet to be given, while that is so. -/
  chunks : ∃ rest, queued r = (yielded r).map .message ++ rest ∧
    (t.finished = false → t.cancelled = false → t.dropped = false → rest = t.waiting)
  flags : if t.cancelled then ∃ n, cancellations r = true :: .replicate n false
    else cancellations r = []
  finished : (∃ a ∈ r, a.final) → t.finished = true
  silenced : r.Pairwise fun a b => a.first?.isSome → b.chunk? = none
  ended : r.Pairwise fun a b => a.final → ∀ item, b = .polled item → item = .ended

namespace EventTable.Sound

variable {t t' : EventTable} {r : List Answer} {a : Answer}

/-- Nothing is answered, and the stream is no nearer to anything new. -/
theorem quiet (s : t.Sound r) (hc : t'.cancelled = t.cancelled) (ho : t'.finished = t.finished)
    (hd : t.dropped → t'.dropped) (hw : t'.dropped = false → t'.waiting = t.waiting) :
    t'.Sound r := by
  obtain ⟨rest, hq, hr⟩ := s.chunks
  refine ⟨⟨rest, hq, fun h1 h2 h3 => ?_⟩, ?_, ?_, s.silenced, s.ended⟩
  · have h4 : t.dropped = false := by
      by_contra h
      simp [hd (by simpa using h)] at h3
    rw [hw h3, hr (ho ▸ h1) (hc ▸ h2) h4]
  · rw [hc]
    exact s.flags
  · rw [ho]
    exact s.finished

/-- One more answer that fits. -/
theorem answer (s : t.Sound r)
    (hq : ∀ rest,
      (t.finished = false → t.cancelled = false → t.dropped = false → rest = t.waiting) →
      ∃ rest', rest ++ a.queued?.toList = a.chunk?.toList.map .message ++ rest' ∧
        (t'.finished = false → t'.cancelled = false → t'.dropped = false → rest' = t'.waiting))
    (hf : t'.cancelled = (t.cancelled || a.first?.isSome)) (hn : a.first? ≠ some t.cancelled)
    (ho : t.finished ∨ a.final → t'.finished) (hc : t.cancelled → a.chunk? = none)
    (he : t.finished → ∀ item, a = .polled item → item = .ended) : t'.Sound (r ++ [a]) := by
  obtain ⟨rest, hrest, hw⟩ := s.chunks
  obtain ⟨rest', hrest', hw'⟩ := hq rest hw
  have hflags := s.flags
  refine ⟨⟨rest', ?_, hw'⟩, ?_, ?_, ?_, ?_⟩
  · rw [queued_concat, yielded_concat, hrest, List.map_append, List.append_assoc, hrest',
      List.append_assoc]
  · rw [cancellations_concat, hf]
    cases hcancelled : t.cancelled with
    | false =>
      rw [hcancelled, if_neg Bool.false_ne_true] at hflags
      cases hfirst : a.first? with
      | none => simp [hflags]
      | some first =>
        obtain rfl : first = true := by simpa [hfirst, hcancelled] using hn
        simp [hflags]
    | true =>
      rw [hcancelled, if_pos rfl] at hflags
      obtain ⟨n, hflags⟩ := hflags
      cases hfirst : a.first? with
      | none => simp [hflags]
      | some first =>
        obtain rfl : first = false := by simpa [hfirst, hcancelled] using hn
        simpa [hflags] using ⟨n + 1, List.replicate_succ'.symm⟩
  · rintro ⟨b, hb, hfin⟩
    rcases List.mem_append.mp hb with hb | hb
    · exact ho (.inl (s.finished ⟨b, hb, hfin⟩))
    · obtain rfl : b = a := by simpa using hb
      exact ho (.inr hfin)
  · refine List.pairwise_append.mpr ⟨s.silenced, List.pairwise_singleton _ _, ?_⟩
    intro b hb c hca hfirst
    obtain rfl : c = a := by simpa using hca
    apply hc
    by_contra hcancelled
    rw [if_neg hcancelled] at hflags
    obtain ⟨first, hfirst⟩ := Option.isSome_iff_exists.mp hfirst
    have hm : first ∈ cancellations r := List.mem_filterMap.mpr ⟨b, hb, hfirst⟩
    simp [hflags] at hm
  · refine List.pairwise_append.mpr ⟨s.ended, List.pairwise_singleton _ _, ?_⟩
    intro b hb c hca hfin
    obtain rfl : c = a := by simpa using hca
    exact he (s.finished ⟨b, hb, hfin⟩)

theorem offer (s : t.Sound r) (e : ChannelEvent) :
    (t.offer e).2.Sound (r ++ [.offered e (t.offer e).1]) := by
  unfold EventTable.offer
  split
  · exact s.answer (fun rest hw => ⟨rest, by simp [Answer.queued?, Answer.chunk?], hw⟩)
      (by simp [Answer.first?]) (by simp [Answer.first?]) (by simp [Answer.final])
      (fun _ => rfl) (by simp)
  split
  · exact s.answer (fun rest hw => ⟨rest, by simp [Answer.queued?, Answer.chunk?], hw⟩)
      (by simp [Answer.first?]) (by simp [Answer.first?]) (by simp [Answer.final])
      (fun _ => rfl) (by simp)
  · refine s.answer (fun rest hw => ⟨rest ++ [e], by simp [Answer.queued?, Answer.chunk?], ?_⟩)
      (by simp [Answer.first?]) (by simp [Answer.first?]) (by simp [Answer.final])
      (fun _ => rfl) (by simp)
    intro h1 h2 h3
    rw [hw h1 h2 h3]

theorem poll (s : t.Sound r) (hd : t.dropped = false) :
    t.next.Sound (r ++ [.polled t.answer.1]) := by
  have hchunk : ∀ data, t.answer.1.chunk? = some data → t.answer.1 = .chunk data := by
    intro data h
    cases ha : t.answer.1 <;> simp_all [Poll.chunk?]
  refine s.answer (fun rest hw => ?_) (by simp [Answer.first?, EventTable.next])
    (by simp [Answer.first?]) (by simp [Answer.final, EventTable.next]) (fun hc => ?_) ?_
  · cases hg : t.answer.1.chunk? with
    | some data =>
      obtain ⟨ho, hc, hconsumed, hhead⟩ := EventTable.answer_chunk (hchunk data hg)
      obtain ⟨later, hlater⟩ : ∃ later, t.waiting = .message data :: later :=
        ⟨_, List.eq_cons_of_mem_head? hhead⟩
      refine ⟨later, ?_, fun _ _ _ => ?_⟩
      · simp [Answer.queued?, Answer.chunk?, hg, hw ho hc hd, hlater]
      · simp [EventTable.next, hconsumed, hlater]
    | none =>
      refine ⟨rest, by simp [Answer.queued?, Answer.chunk?, hg], fun h1 h2 h3 => ?_⟩
      obtain ⟨ho, hfin⟩ : t.finished = false ∧ t.answer.1.final = false := by
        simpa [EventTable.next] using h1
      have hp : t.answer.1 = .pending := by
        cases ha : t.answer.1 <;> simp_all [Poll.chunk?, Poll.final]
      rcases EventTable.answer_pending hp with hc | hn
      · simp [show t.cancelled = false from h2] at hc
      · simpa [EventTable.next, hn] using hw ho h2 h3
  · by_contra hn
    obtain ⟨data, hg⟩ := Option.ne_none_iff_exists'.mp hn
    simp [(EventTable.answer_chunk (hchunk data hg)).2.1] at hc
  · rintro ho item ⟨⟩
    rw [EventTable.answer_of_finished ho]

theorem cancel (s : t.Sound r) (handle : Nat) (reason : String) (k : Coordinator σ) :
    (EventTable.act (t, k) (.cancel handle reason)).1.1.Sound
      (r ++ (EventTable.act (t, k) (.cancel handle reason)).2.1) := by
  cases hc : t.cancelled with
  | true =>
    simp only [EventTable.act, hc, if_true]
    exact s.answer (fun rest hw => ⟨rest, by simp [Answer.queued?, Answer.chunk?], hw⟩)
      (by simp [hc]) (by simp [Answer.first?, hc]) (by simp [Answer.final]) (fun _ => rfl)
      (by simp)
  | false =>
    simp only [EventTable.act, hc, Bool.false_eq_true, if_false]
    exact s.answer (fun rest hw => ⟨rest, by simp [Answer.queued?, Answer.chunk?], by simp⟩)
      (by simp [Answer.first?]) (by simp [Answer.first?, hc]) (by simp [Answer.final])
      (fun _ => rfl) (by simp)

theorem fresh (capacity : Nat) : ({ capacity } : EventTable).Sound [] :=
  ⟨⟨[], rfl, fun _ _ _ => rfl⟩, rfl, by simp, .nil, .nil⟩

theorem act {x : EventTable × Coordinator σ} (s : x.1.Sound r) (a : Act σ) :
    (EventTable.act x a).1.1.Sound (r ++ (EventTable.act x a).2.1) := by
  obtain ⟨t, k⟩ := x
  cases a with
  | fire e =>
    by_cases hl : t.live
    · simpa only [EventTable.act, hl, if_true] using s.offer e
    · simpa [EventTable.act, hl] using s
  | poll =>
    cases hd : t.dropped with
    | true => simpa [EventTable.act, hd] using s
    | false => simpa only [EventTable.act, hd, Bool.false_eq_true, if_false] using s.poll hd
  | cancel handle reason => exact s.cancel handle reason k
  | dropStream =>
    have hs : ({ t with waiting := [], dropped := true } : EventTable).Sound r :=
      s.quiet rfl rfl (fun _ => rfl) nofun
    simpa [EventTable.act] using hs
  | dropSource =>
    have hs : ({ t with live := false } : EventTable).Sound r :=
      s.quiet rfl rfl id (fun _ => rfl)
    simpa [EventTable.act] using hs
  | client | close => simpa [EventTable.act] using s

end EventTable.Sound

namespace Intake

/-- A stream that nothing has happened to. -/
def start (client : σ) (d : Destination) (capacity : Nat) : Intake σ where
  chunks := { events := { capacity } }
  gate := { client, destination := d }

/-- Whatever is done with a stream and happens around it, all polls, cancellations and events have
the answers of the automaton, and the same happens to the client. So the chunks are a prefix of the
messages that were queued before the first close or error, none is given after a cancellation,
exactly the first cancellation counts, and the stream stays ended once it has ended or failed. -/
theorem follows_table (client : σ) (d : Destination) (capacity : Nat) (acts : List (Act σ)) :
    let stream := perform act (start client d capacity) acts
    let automaton := perform EventTable.act ({ capacity }, { client, destination := d }) acts
    stream.2 = automaton.2 ∧ stream.1.gate = automaton.1.2 ∧
    (yielded stream.2.1).map .message <+: (queued stream.2.1).takeWhile (·.carries) ∧
    (stream.2.1.Pairwise fun a b => a.first?.isSome → b.chunk? = none) ∧
    (cancellations stream.2.1 = [] ∨ ∃ n, cancellations stream.2.1 = true :: .replicate n false) ∧
    (stream.2.1.Pairwise fun a b => a.final → ∀ item, b = .polled item → item = .ended) := by
  intro stream automaton
  have heq : automaton = (stream.1.table, stream.2) :=
    perform_eq (start client d capacity) acts
  have hs : automaton.1.1.Sound ([] ++ automaton.2.1) :=
    perform_induction (P := fun (x : EventTable × Coordinator σ) r => x.1.Sound r)
      (fun _ a _ s => s.act a) (.fresh capacity) acts
  rw [List.nil_append, heq] at hs
  refine ⟨by rw [heq], by rw [heq, table_snd], ?_, hs.silenced, ?_, hs.ended⟩
  · obtain ⟨rest, hq, -⟩ := hs.chunks
    rw [hq, List.takeWhile_append_of_pos (by simp [ChannelEvent.carries])]
    exact List.prefix_append _ _
  · have hflags := hs.flags
    split at hflags
    · exact .inr hflags
    · exact .inl hflags

end Intake

end Tunnel
