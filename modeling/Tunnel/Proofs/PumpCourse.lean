import Tunnel.Client.Scripted
import Tunnel.Proofs.Client
import Tunnel.Proofs.Line.Reading

/-!
# The course of a pump

A pump takes its turns one by one, and between two of them anything may happen but to the pump
itself: the client changes, others close it, items come. What the pump makes of the items it meets
is read off the items and the client as it finds them, one meeting after the other: it sends the
chunks up to the first item that it cannot pass on, and that item alone decides how it ends.

## Main definitions

* `Meeting`, `Meeting.stop?` — what a pump meets at a turn, and what stops it there.
* `Pump.Turn`, `Pump.Course` — a turn with what it does, and all turns of a pump so far.

## Main statements

* `Plumbing.pumpItem?_meets` — a turn does what the meeting says.
* `Pump.Course.shape` — all meetings of a pump but the last let it go on.
* `Pump.forwards` — what a pump sends, how it ends and what it does to the client.
-/

namespace Tunnel

variable {σ : Type}

/-- What a pump meets at a turn: the item that its reader gives, if it has not ended, and the
client. -/
structure Meeting (σ : Type) where
  item : Option (Except IoError Bytes)
  gate : Coordinator σ

/-- What stops a pump. -/
inductive Pump.Stop
  /-- The reader has ended. -/
  | ended
  | failed (e : SessionError)
  | crashed (reason : String)
  deriving DecidableEq, Repr

/-- What stops a pump after such a delivery. -/
def Delivery.stop? : Delivery → Option Pump.Stop
  | .sent => none
  | .failed e => some (.failed e)
  | .crashed reason => some (.crashed reason)

namespace Meeting

/-- The chunk that the reader gives, if it gives one. -/
def chunk? (m : Meeting σ) : Option Bytes := m.item.bind Except.toOption

variable [ClientChannel σ]

/-- What stops the pump, if it cannot send a chunk: the end, a read error, a client that is not
open, or a failed send. -/
def stop? (m : Meeting σ) : Option Pump.Stop :=
  match m.item with
  | none => some .ended
  | some (.error e) => some (.failed (.remote e))
  | some (.ok chunk) =>
    if ClientChannel.readyState m.gate.client = .opened then
      match (ClientChannel.send m.gate.client chunk).1 with
      | .sent => none
      | .failed e => some (.failed (.client e))
      | .crashed reason => some (.crashed reason)
    else some (.failed .clientNotOpen)

/-- The message to the client. -/
def message? (m : Meeting σ) : Option Bytes := if m.stop? = none then m.chunk? else none

/-- The coordinator once the pump has tried to send, which it does only to an open client. -/
def tried (m : Meeting σ) : Coordinator σ :=
  match m.chunk? with
  | some chunk =>
    if ClientChannel.readyState m.gate.client = .opened then
      { m.gate with client := (ClientChannel.send m.gate.client chunk).2 }
    else m.gate
  | none => m.gate

/-- The coordinator after the turn: only a failure requests the close of the client. -/
def after (m : Meeting σ) : Coordinator σ :=
  match m.stop? with
  | some (.failed _) => (m.tried.close "remote to client pump failed").2.1
  | _ => m.tried

variable {m : Meeting σ} {item : Except IoError Bytes}

theorem stop?_eq_ended_iff : m.stop? = some .ended ↔ m.item = none := by
  unfold stop?
  rcases m.item with _ | _ | chunk
  · simp
  · simp
  · dsimp only
    split
    · split <;> simp
    · simp

/-- Who goes on has been given a chunk. -/
theorem chunk?_of_stop?_eq_none (h : m.stop? = none) : ∃ chunk, m.chunk? = some chunk := by
  unfold stop? at h
  rcases hi : m.item with _ | e | chunk <;> rw [hi] at h
  · cases h
  · cases h
  · exact ⟨chunk, by simp [chunk?, hi, Except.toOption]⟩

theorem requested_tried (m : Meeting σ) : m.tried.requested = m.gate.requested := by
  unfold tried
  split
  · split <;> rfl
  · rfl

theorem requested_after (m : Meeting σ) :
    m.after.requested = true ↔ m.gate.requested = true ∨ ∃ e, m.stop? = some (.failed e) := by
  unfold after
  split
  · rename_i e hs
    exact ⟨fun _ => .inr ⟨e, hs⟩, fun _ => (m.tried.quiet_close _).2⟩
  · rename_i hs
    rw [requested_tried]
    exact ⟨.inl, fun h => h.resolve_right fun ⟨e, he⟩ => hs e he⟩

theorem after_of_item_eq_none (h : m.item = none) : m.after = m.gate := by
  have hs : m.stop? = some .ended := stop?_eq_ended_iff.mpr h
  simp [after, tried, chunk?, hs, h]

end Meeting

/-- Whether something acts on the client's connection beyond a message to it. -/
def Happening.closes : Happening → Bool
  | .closeSought _ | .closeCalled => true
  | _ => false

variable [ClientChannel σ]

/-- What `deliver` does with an item is what the meeting says. -/
theorem deliver_meets (k : Coordinator σ) (item : Except IoError Bytes) :
    let m : Meeting σ := { item := some item, gate := k }
    m.stop? = (deliver k item).1.stop? ∧ (deliver k item).2.1 = m.after ∧
      passed .sent (deliver k item).2.2 = m.message?.toList ∧
      ((∃ e ∈ (deliver k item).2.2, e.closes) → ∃ e, m.stop? = some (.failed e)) := by
  intro m
  have hclose : ∀ k' : Coordinator σ,
      passed .sent (k'.close "remote to client pump failed").2.2 = [] := by
    intro k'
    rw [← passed_filter_concernsData, (k'.quiet_close _).1.happened, passed_nil]
  cases item with
  | error e =>
    simp [m, Meeting.stop?, Meeting.after, Meeting.tried, Meeting.chunk?, Meeting.message?,
      Except.toOption, deliver, Delivery.stop?, hclose, Happening.at?, Happening.station?,
      Happening.log]
  | ok chunk =>
    by_cases ho : ClientChannel.readyState k.client = .opened
    · rcases hs : ClientChannel.send k.client chunk with ⟨_ | e | reason, client⟩ <;>
        simp [m, Meeting.stop?, Meeting.after, Meeting.tried, Meeting.chunk?, Meeting.message?,
          Except.toOption, deliver, sendChunk, Delivery.stop?, hclose, Happening.at?,
          Happening.station?, Happening.log, Happening.closes, ho, hs]
    · simp [m, Meeting.stop?, Meeting.after, Meeting.tried, Meeting.chunk?, Meeting.message?,
        Except.toOption, deliver, sendChunk, Delivery.stop?, hclose, Happening.at?,
        Happening.station?, Happening.log, Happening.closes, ho]

/-! ### A turn -/

/-- A turn of a pump: what it met, the coordinator that it left, and what happened. -/
structure Pump.Turn (σ : Type) where
  meeting : Meeting σ
  gate : Coordinator σ
  happened : List Happening

/-- The turn did to the client what the meeting says. -/
structure Pump.Turn.Faithful (t : Pump.Turn σ) : Prop where
  gate : t.gate = t.meeting.after
  message : passed .sent t.happened = t.meeting.message?.toList
  /-- The client is closed only at a failure. -/
  closes : (∃ e ∈ t.happened, e.closes) → ∃ e, t.meeting.stop? = some (.failed e)

namespace Pump

omit [ClientChannel σ] in
/-- The pump when it has got the item, if there is one. -/
def receiving (p : Pump) (m : Meeting σ) : Pump :=
  { p with delivered := p.delivered || m.chunk?.isSome }

/-- The pump at a stop. -/
def stopping (p : Pump) : Stop → Pump
  | .ended => p.leave (.finished p.delivered)
  | .failed e => p.leave (.failed p.delivered e)
  | .crashed reason => { p with phase := .crashed reason }

/-- The outcome of a pump at a stop, if it has one. -/
def Stop.outcome? (delivered : Bool) : Stop → Option PumpOutcome
  | .ended => some (.finished delivered)
  | .failed e => some (.failed delivered e)
  | .crashed _ => none

@[simp] theorem stopping_phase_ne_running (p : Pump) (s : Stop) :
    (p.stopping s).phase ≠ .running := by
  cases s <;> simp [stopping]

@[simp] theorem left_stopping (p : Pump) (s : Stop) (outcome : PumpOutcome) :
    (p.stopping s).Left outcome ↔ s.outcome? p.delivered = some outcome := by
  cases s with
  | ended | failed => simp [stopping, Stop.outcome?]
  | crashed => simp [stopping, Stop.outcome?, Left]

@[simp] theorem stopping_phase_eq_crashed_iff (p : Pump) (s : Stop) (reason : String) :
    (p.stopping s).phase = .crashed reason ↔ s = .crashed reason := by
  have hleave : ∀ outcome, (p.leave outcome).phase ≠ .crashed reason := by
    intro outcome
    cases hc : p.closesClient <;> simp [leave, hc]
  cases s <;> simp [stopping, hleave]

/-- The pump after a meeting. -/
def meet (p : Pump) (m : Meeting σ) : Pump :=
  match m.stop? with
  | none => p.receiving m
  | some s => (p.receiving m).stopping s

end Pump

namespace Plumbing

variable {w w' : Plumbing σ} {k i : Nat} {p : Pump} {t : Pump.Turn σ}

omit [ClientChannel σ] in
/-- What a pump on connection number `i` would meet, if it need not wait. -/
def meeting? (w : Plumbing σ) (i : Nat) : Option (Meeting σ) :=
  match (w.transport.receive i).1 with
  | .pending => none
  | .ended => some { item := none, gate := w.gate }
  | .item item => some { item := some item, gate := w.gate }

/-- A running pump takes a turn unless its reader has nothing yet. -/
theorem pumpItem?_isSome (w : Plumbing σ) (k : Nat) (p : Pump) :
    (w.pumpItem? k p).isSome = (w.meeting? p.connection).isSome := by
  unfold pumpItem? meeting?
  rcases w.transport.receive p.connection with ⟨item | _ | _, transport, happened⟩
  · dsimp only
    split <;> rfl
  · rfl
  · rfl

/-- Pump number `k`, which is `p`, takes this turn. -/
structure Takes (w : Plumbing σ) (k : Nat) (p : Pump) (t : Pump.Turn σ) (w' : Plumbing σ) :
    Prop where
  step : w.pumpItem? k p = some w'
  meeting : w.meeting? p.connection = some t.meeting
  gate : w'.gate = t.gate
  trace : w'.trace = t.happened.reverse ++ w.trace

/-- The step determines the turn. -/
theorem Takes.eq {t' : Pump.Turn σ} (h : w.Takes k p t w') (h' : w.Takes k p t' w') : t = t' := by
  have hm : t.meeting = t'.meeting := Option.some_inj.mp (h.meeting.symm.trans h'.meeting)
  have hh : t.happened = t'.happened :=
    List.reverse_injective (List.append_cancel_right (h.trace.symm.trans h'.trace))
  obtain ⟨meeting, gate, happened⟩ := t
  obtain rfl : meeting = t'.meeting := hm
  obtain rfl : happened = t'.happened := hh
  obtain rfl : gate = t'.gate := h.gate.symm.trans h'.gate
  rfl

/-- Receiving tells of nothing but the chunk that is handed out. -/
theorem receive_happened (t : Transport) (i : Nat) :
    passed .sent (t.receive i).2.2 = [] ∧ ∀ e ∈ (t.receive i).2.2, e.closes = false := by
  unfold Transport.receive
  split
  · simp
  · split <;> simp [Happening.at?, Happening.station?, Happening.closes]

theorem takes_of_item {item : Except IoError Bytes} {happened : List Happening}
    {transport : Transport}
    (hr : w.transport.receive p.connection = (.item item, transport, happened))
    (h : w.pumpItem? k p = some w') :
    ∃ t, w.Takes k p t w' ∧ w'.pumps = w.pumps.set k (p.meet t.meeting) ∧ t.Faithful := by
  obtain ⟨hsent, hcloses⟩ := receive_happened w.transport p.connection
  obtain ⟨hstop, hgate, hmessage, hclose⟩ := deliver_meets w.gate item
  rcases hd : deliver w.gate item with ⟨delivery, gate, now⟩
  have hstep := h
  unfold pumpItem? at h
  rw [hr] at h hsent hcloses
  dsimp only [withTransport, note] at h
  rw [hd] at h hstop hgate hmessage hclose
  refine ⟨⟨⟨some item, w.gate⟩, gate, happened ++ now⟩, ⟨hstep, ?_, ?_, ?_⟩, ?_, hgate, ?_, ?_⟩
  · simp [meeting?, hr]
  · cases delivery <;> cases h <;> rfl
  · cases delivery <;> cases h <;> simp [setPump, endPump, crashPump, dropReader]
  · rw [Pump.meet, hstop]
    cases item <;> cases delivery <;> cases h <;>
      simp [Pump.receiving, Pump.stopping, Meeting.chunk?, Except.toOption, Delivery.stop?,
        Pump.leave, setPump, endPump, crashPump, dropReader]
  · rw [passed_append, hsent, List.nil_append, hmessage]
  · rintro ⟨e, he, hc⟩
    rcases List.mem_append.mp he with he | he
    · simp [hcloses e he] at hc
    · exact hclose ⟨e, he, hc⟩

theorem takes_of_ended {happened : List Happening} {transport : Transport}
    (hr : w.transport.receive p.connection = (.ended, transport, happened))
    (h : w.pumpItem? k p = some w') :
    ∃ t, w.Takes k p t w' ∧ w'.pumps = w.pumps.set k (p.meet t.meeting) ∧ t.Faithful := by
  obtain ⟨hsent, hcloses⟩ := receive_happened w.transport p.connection
  let m : Meeting σ := { item := none, gate := w.gate }
  let note := Happening.log .info w.gate.destination
    s!"remote readable is closed with has_incoming_data is {p.delivered}"
  have hstop : m.stop? = some .ended := rfl
  have hstep := h
  unfold pumpItem? at h
  rw [hr] at h hsent hcloses
  cases h
  refine ⟨⟨m, w.gate, happened ++ [note]⟩, ⟨hstep, ?_, rfl, ?_⟩, ?_, ?_, ?_, ?_⟩
  · simp [meeting?, hr, m]
  · simp [setPump, endPump, dropReader, withTransport, Plumbing.note, log, note]
  · simp [Pump.meet, hstop, Pump.receiving, Pump.stopping, Meeting.chunk?, Pump.leave, setPump,
      endPump, dropReader, withTransport, Plumbing.note, log, m]
  · exact (Meeting.after_of_item_eq_none (m := m) rfl).symm
  · simp [hsent, Meeting.message?, hstop, note, Happening.at?, Happening.station?, Happening.log]
  · rintro ⟨e, he, hc⟩
    rcases List.mem_append.mp he with he | he
    · simp [hcloses e he] at hc
    · obtain rfl := List.mem_singleton.mp he
      cases hc

/-- A turn does to the pump and to the client what the meeting says. -/
theorem Takes.meets (h : w.Takes k p t w') :
    w'.pumps = w.pumps.set k (p.meet t.meeting) ∧ t.Faithful := by
  have hstep := h.step
  rcases hr : w.transport.receive p.connection with ⟨item | _ | _, transport, happened⟩
  · obtain ⟨t', h', hmeets⟩ := takes_of_item hr hstep
    exact h.eq h' ▸ hmeets
  · obtain ⟨t', h', hmeets⟩ := takes_of_ended hr hstep
    exact h.eq h' ▸ hmeets
  · simp [pumpItem?, hr] at hstep

/-- A running pump need only wait for its reader, and one that is not takes nothing from it. -/
theorem pump?_of_pumps (hp : w.pumps[k]? = some p) :
    if p.phase = .running then (w.pump? k).isSome = (w.meeting? p.connection).isSome
    else ∀ w', w.pump? k = some w' → w'.transport = w.transport := by
  cases hph : p.phase with
  | running => simp [pump?, hp, hph, pumpItem?_isSome]
  | settling outcome =>
    rw [if_neg (by simp)]
    intro w' h
    simp only [pump?, hp, Option.bind_some, hph, settlePump?, Option.map_eq_some_iff] at h
    obtain ⟨closed, -, rfl⟩ := h
    cases closed <;> rfl
  | ended | crashed => simp [pump?, hp, hph]

end Plumbing

/-! ### The course -/

namespace Pump

/-- The turns of pump number `k` from `p` to `q`. Each finds the pump at work and as the last turn
left it; what else it finds may be anything. -/
inductive Course (k : Nat) (p : Pump) : List (Turn σ) → Pump → Prop
  | start : Course k p [] p
  | turn {turns : List (Turn σ)} {t : Turn σ} {q r : Pump} {w w' : Plumbing σ} :
      Course k p turns q → w.pumps[k]? = some q → q.phase = .running → w.Takes k q t w' →
      w'.pumps[k]? = some r → Course k p (turns ++ [t]) r

variable {k : Nat} {p q : Pump} {turns : List (Turn σ)}

/-- What is known of a pump after its turns: it is at work and nothing has stopped it, or the last
meeting has. -/
theorem Course.shape (c : p.Course k turns q) :
    let heard (met : List (Meeting σ)) : Pump :=
      { p with delivered := p.delivered || met.any (·.chunk?.isSome) }
    (∀ m ∈ turns.map (·.meeting), m.stop? = none) ∧ q = heard (turns.map (·.meeting)) ∨
    ∃ before last s, turns.map (·.meeting) = before ++ [last] ∧ (∀ m ∈ before, m.stop? = none) ∧
      last.stop? = some s ∧ q = (heard (before ++ [last])).stopping s := by
  intro heard
  induction c with
  | start => simp [heard]
  | @turn turns t q r w w' c hq hrun htakes hr ih =>
    obtain ⟨hpumps, -⟩ := htakes.meets
    have hlt : k < w.pumps.length := (List.getElem?_eq_some_iff.mp hq).1
    obtain rfl : q.meet t.meeting = r := by
      simpa [hpumps, hlt] using hr
    obtain ⟨hpass, rfl⟩ | ⟨before, last, s, -, -, -, rfl⟩ := ih
    · cases hs : t.meeting.stop? with
      | none =>
        left
        refine ⟨?_, ?_⟩
        · simpa [or_imp, forall_and, hs] using hpass
        · simp [meet, hs, receiving, heard, Bool.or_assoc]
      | some s =>
        right
        refine ⟨turns.map (·.meeting), t.meeting, s, by simp, hpass, hs, ?_⟩
        simp [meet, hs, receiving, heard, Bool.or_assoc]
    · cases s <;> simp [stopping] at hrun

theorem Course.faithful (c : p.Course k turns q) : ∀ t ∈ turns, t.Faithful := by
  induction c with
  | start => simp
  | turn _ _ _ htakes _ ih =>
    intro t ht
    rcases List.mem_append.mp ht with ht | ht
    · exact ih t ht
    · obtain rfl := List.mem_singleton.mp ht
      exact htakes.meets.2

theorem Course.connection (c : p.Course k turns q) : q.connection = p.connection := by
  rcases c.shape with ⟨-, rfl⟩ | ⟨_, _, s, -, -, -, rfl⟩
  · rfl
  · cases s <;> rfl

/-- What is sent in turns that did what their meetings say. -/
theorem passed_sent_turns (h : ∀ t ∈ turns, t.Faithful) :
    passed .sent (turns.flatMap (·.happened)) =
      (turns.map (·.meeting)).filterMap Meeting.message? := by
  induction turns with
  | nil => rfl
  | cons t turns ih =>
    have ht := (h t List.mem_cons_self).message
    have hrest := ih fun t' h' => h t' (List.mem_cons_of_mem _ h')
    rw [List.flatMap_cons, passed_append, ht, hrest, List.map_cons]
    cases hm : t.meeting.message? <;> simp [hm]

/-- The messages of meetings that all let the pump go on are their chunks. -/
theorem filterMap_message? {met : List (Meeting σ)} (h : ∀ m ∈ met, m.stop? = none) :
    met.filterMap Meeting.message? = met.filterMap Meeting.chunk? :=
  List.filterMap_congr fun m hm => by simp [Meeting.message?, h m hm]

/-- Only the last meeting can be without a message, so that the messages are the chunks before the
first stop. -/
theorem Course.messages (c : p.Course k turns q) :
    (turns.map (·.meeting)).filterMap Meeting.message? =
      ((turns.map (·.meeting)).takeWhile (·.stop? = none)).filterMap Meeting.chunk? := by
  rcases c.shape with ⟨hpass, -⟩ | ⟨before, last, s, hmet, hbefore, hs, -⟩
  · rw [List.takeWhile_eq_self_iff.mpr (by simpa using hpass), filterMap_message? hpass]
  · rw [hmet, List.takeWhile_append_of_pos (by simpa using hbefore), List.filterMap_append,
      filterMap_message? hbefore]
    simp [Meeting.message?, hs]

/-- The first stop says how a pump ends. -/
theorem Course.ends (c : p.Course k turns q) (hp : p.phase = .running) (hd : p.delivered = false) :
    let stop? := (turns.map (·.meeting)).findSome? Meeting.stop?
    let received := (turns.map (·.meeting)).any (·.chunk?.isSome)
    (q.phase = .running ↔ stop? = none) ∧
    (∀ b, q.Left (.finished b) ↔ stop? = some .ended ∧ b = received) ∧
    (∀ b e, q.Left (.failed b e) ↔ stop? = some (.failed e) ∧ b = received) ∧
    (∀ reason, q.phase = .crashed reason ↔ stop? = some (.crashed reason)) := by
  intro stop? received
  rcases c.shape with ⟨hpass, rfl⟩ | ⟨before, last, s, hmet, hbefore, hs, rfl⟩
  · have hstop : stop? = none := List.findSome?_eq_none_iff.mpr hpass
    simp [hstop, hp, Left]
  · have hstop : stop? = some s := by
      have hnone := List.findSome?_eq_none_iff.mpr hbefore
      simp [stop?, hmet, hnone, hs]
    have hreceived : received = (before ++ [last]).any (·.chunk?.isSome) := by rw [← hmet]
    rw [hstop, hreceived]
    refine ⟨by simp, fun b => ?_, fun b e => ?_, by simp⟩
    · cases s <;> simp [Stop.outcome?, hd, eq_comm (a := b)]
    · cases s <;> simp [Stop.outcome?, hd, eq_comm (a := b), and_comm]

/-- A pump whose reader has ended has finished, with all chunks sent. -/
theorem Course.finishes (c : p.Course k turns q) (hp : p.phase = .running) :
    (∃ b, q.Left (.finished b)) ↔ (∃ m ∈ turns.map (·.meeting), m.item = none) ∧
      passed .sent (turns.flatMap (·.happened)) =
        (turns.map (·.meeting)).filterMap Meeting.chunk? := by
  rw [passed_sent_turns c.faithful, c.messages]
  rcases c.shape with ⟨hpass, rfl⟩ | ⟨before, last, s, hmet, hbefore, hs, rfl⟩
  · refine iff_of_false (by simp [Left, hp]) ?_
    rintro ⟨⟨m, hm, hi⟩, -⟩
    exact absurd (hpass m hm) (by simp [Meeting.stop?_eq_ended_iff.mpr hi])
  · have hended : ∀ p : Pump, (∃ b, (p.stopping s).Left (.finished b)) ↔ s = .ended := by
      intro p
      cases s <;> simp [Stop.outcome?]
    rw [hended, hmet]
    constructor
    · rintro rfl
      have hi : last.item = none := Meeting.stop?_eq_ended_iff.mp hs
      refine ⟨⟨last, by simp, hi⟩, ?_⟩
      rw [List.takeWhile_append_of_pos (by simpa using hbefore)]
      simp [Meeting.chunk?, hi, hs]
    · rintro ⟨⟨m, hm, hi⟩, -⟩
      have hm' : m.stop? = some .ended := Meeting.stop?_eq_ended_iff.mpr hi
      rcases List.mem_append.mp hm with hm | hm
      · simp [hbefore m hm] at hm'
      · obtain rfl := List.mem_singleton.mp hm
        exact Option.some_inj.mp (hs.symm.trans hm')

variable {i : Nat} {closesClient : Bool}

/-- In whatever surroundings a pump takes its turns, it sends the chunks of the longest sequence of
meetings at which the client was open and took them, one message for each, and ends as the first
other meeting says: finished at the end, failed for what failed first, or crashed with the client.
It tells whether a chunk was received. It requests the close of the client exactly at a failure, and
leaves the coordinator as it is at the end. While it is at work it need only wait for its reader,
and afterwards it takes nothing from it. -/
theorem forwards (c : Course k { connection := i, closesClient } turns q) :
    let met := turns.map (·.meeting)
    let received := met.any (·.chunk?.isSome)
    let sent := passed .sent (turns.flatMap (·.happened))
    sent = (met.takeWhile (·.stop? = none)).filterMap Meeting.chunk? ∧
    (q.phase = .running ↔ met.findSome? Meeting.stop? = none) ∧
    (∀ b, q.Left (.finished b) ↔ met.findSome? Meeting.stop? = some .ended ∧ b = received) ∧
    (∀ b e, q.Left (.failed b e) ↔
      met.findSome? Meeting.stop? = some (.failed e) ∧ b = received) ∧
    (∀ reason, q.phase = .crashed reason ↔
      met.findSome? Meeting.stop? = some (.crashed reason)) ∧
    ((∃ b, q.Left (.finished b)) ↔
      (∃ m ∈ met, m.item = none) ∧ sent = met.filterMap Meeting.chunk?) ∧
    (∀ t ∈ turns, t.gate = t.meeting.after ∧
      (t.gate.requested = true ↔
        t.meeting.gate.requested = true ∨ ∃ e, t.meeting.stop? = some (.failed e)) ∧
      ((∃ e ∈ t.happened, e.closes) → ∃ e, t.meeting.stop? = some (.failed e)) ∧
      (t.meeting.item = none → t.gate = t.meeting.gate)) ∧
    (∀ w : Plumbing σ, w.pumps[k]? = some q →
      if q.phase = .running then (w.pump? k).isSome = (w.meeting? i).isSome
      else ∀ w', w.pump? k = some w' → w'.transport = w.transport) := by
  intro met received sent
  have hfaithful := c.faithful
  have hsent : sent = met.filterMap Meeting.message? := passed_sent_turns hfaithful
  obtain ⟨hrunning, hfinished, hfailed, hcrashed⟩ := c.ends rfl rfl
  refine ⟨hsent.trans c.messages, hrunning, hfinished, hfailed, hcrashed, c.finishes rfl,
    fun t ht => ?_, fun w hw => ?_⟩
  · have hgate := (hfaithful t ht).gate
    refine ⟨hgate, ?_, (hfaithful t ht).closes, fun hi => ?_⟩
    · rw [hgate, Meeting.requested_after]
    · rw [hgate, Meeting.after_of_item_eq_none hi]
  · have hi : q.connection = i := c.connection
    exact hi ▸ Plumbing.pump?_of_pumps hw

/-- Two chunks wait for a pump whose client is open. -/
def twoWaiting : Plumbing ScriptedClient where
  gate := { client := {}, destination := { host := "first", port := 80 } }
  transport := {
    peers := []
    connections := [{
      destination := { host := "first", port := 80 }, capacity := 4, inbox := [.ok [1], .ok [2]]
      delivered := false, reader := .taken, driver := .stopped }] }
  pumps := [{ connection := 0 }]

/-- The first pump has its turn. -/
def turned (w : Plumbing ScriptedClient) : Plumbing ScriptedClient := (w.pump? 0).getD w

/-- One chunk was sent, and then the client began to close. -/
def oneWaiting : Plumbing ScriptedClient :=
  let w := turned twoWaiting
  { w with gate := { w.gate with client := { w.gate.client with code := 2 } }, trace := [] }

/-- The second chunk is not sent any more, and the client is closed. -/
theorem forwards_oneWaiting : ∃ (turns : List (Turn ScriptedClient)) (q : Pump),
    Course 0 { connection := 0 } turns q ∧ q.Left (.failed true .clientNotOpen) ∧
      passed .sent (turns.flatMap (·.happened)) = [[1]] ∧
      (turns.map (·.gate.requested)) = [false, true] := by
  let turn (w : Plumbing ScriptedClient) (chunk : Bytes) : Turn ScriptedClient :=
    { meeting := { item := some (.ok chunk), gate := w.gate }, gate := (turned w).gate
      happened := (turned w).trace.reverse }
  have c : Course 0 { connection := 0 } [turn twoWaiting [1], turn oneWaiting [2]]
      { connection := 0, delivered := true, phase := .ended (.failed true .clientNotOpen) } := by
    have h₁ : twoWaiting.Takes 0 { connection := 0 } (turn twoWaiting [1]) (turned twoWaiting) :=
      ⟨rfl, rfl, rfl, by simp [turn, twoWaiting]⟩
    have h₂ : oneWaiting.Takes 0 { connection := 0, delivered := true } (turn oneWaiting [2])
        (turned oneWaiting) :=
      ⟨rfl, rfl, rfl, by simp [turn, oneWaiting]⟩
    exact (Course.start.turn rfl rfl h₁ rfl).turn rfl rfl h₂ rfl
  obtain ⟨hsent, -, -, hfailed, -⟩ := forwards c
  refine ⟨_, _, c, (hfailed _ _).mpr ⟨rfl, rfl⟩, ?_, rfl⟩
  rw [hsent]
  rfl

end Pump

end Tunnel
