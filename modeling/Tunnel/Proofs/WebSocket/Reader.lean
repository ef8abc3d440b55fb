import Tunnel.Proofs.WebSocket.Basic
import Tunnel.Proofs.WebSocket.Due

/-!
# What a WebSocket fires

While somebody may take the events, the reader fires the events that are due for the items it reads:
messages up to the first close or error, one close, and an error if the socket fails. It never lets
a message follow a close or an error, and the channel is closed before the first of these is fired.

## Main definitions

* `Feed.pending` — the events that the reader is still to put into the queue.
* `Feed.Told` — how items, events and the reader fit together.
* `Feed.Fires` — what the reader fires.

## Main statements

* `Feed.pending_read` — what one item adds to the events.
* `Feed.Told.step` — every act keeps items and events together.
* `Feed.fires_due` — the reader fires what is due, in order.
-/

namespace Tunnel.WebSocket

namespace Feed

/-! ### What is seen of the reader -/

namespace Entry

def item? : Entry → Option Incoming
  | .read item => some item
  | _ => none

def queued? : Entry → Option ChannelEvent
  | .queued event => some event
  | _ => none

def took? : Entry → Option ChannelEvent
  | .took event => some event
  | _ => none

end Entry

/-- All that the reader read. -/
def items (log : List Entry) : List Incoming := log.filterMap Entry.item?

/-- All that the reader put into the queue. -/
def queued (log : List Entry) : List ChannelEvent := log.filterMap Entry.queued?

/-- All that the owner took out of the queue. -/
def took (log : List Entry) : List ChannelEvent := log.filterMap Entry.took?

section log

variable {log now : List Entry} {e : Entry}

@[simp] theorem items_append : items (log ++ now) = items log ++ items now :=
  List.filterMap_append

@[simp] theorem queued_append : queued (log ++ now) = queued log ++ queued now :=
  List.filterMap_append

@[simp] theorem took_append : took (log ++ now) = took log ++ took now :=
  List.filterMap_append

@[simp] theorem items_singleton : items [e] = e.item?.toList := filterMap_singleton _ _

@[simp] theorem queued_singleton : queued [e] = e.queued?.toList := filterMap_singleton _ _

@[simp] theorem took_singleton : took [e] = e.took?.toList := filterMap_singleton _ _

end log

/-! ### Where the reader is -/

/-- The events that the reader is still to put into the queue. -/
def pending (f : Feed) : List ChannelEvent :=
  match f.reader with
  | .reading | .ended => []
  | .queueing event .finishes => event :: if f.closeFired then [] else [.close]
  | .queueing event .continues | .queueing event .stops => [event]

/-- Whether the reader will read on. -/
def readsOn (f : Feed) : Bool :=
  match f.reader with
  | .reading | .queueing _ .continues => true
  | .queueing _ .finishes | .queueing _ .stops | .ended => false

variable {f f' : Feed} {log now : List Entry} {item : Incoming} {event : ChannelEvent}
  {afterwards : Afterwards}

/-- A reader that ends fires a close unless one was fired. -/
theorem finish_ends : f.finish.readsOn = false ∧
    f.finish.pending = if f.closeFired then [] else [.close] := by
  unfold finish
  cases hf : f.closeFired <;> simp [setState, stop, readsOn, pending, hf]

/-- An item gives what is due for it, or for what comes after a close. -/
theorem pending_read (hr : f.reader = .reading) :
    (f.read item).1.pending = if f.closeFired then errors [item] else due [item] := by
  cases item with
  | binary data | text data =>
    cases hf : f.closeFired <;> simp [read, hf, pending, hr] <;> rfl
  | ping | pong | raw => cases hf : f.closeFired <;> simp [read, pending, hr] <;> rfl
  | close body =>
    cases hf : f.closeFired <;> simp [read, setState, hf, pending, hr] <;> rfl
  | closed | ended => exact finish_ends.2
  | failed reason => cases hf : f.closeFired <;> simp [read, setState, hf, pending] <;> rfl

theorem readsOn_read (hr : f.reader = .reading) : (f.read item).1.readsOn = !item.ends := by
  cases item with
  | binary data | text data =>
    cases hf : f.closeFired <;> simp [read, hf, readsOn, hr, Incoming.ends]
  | ping | pong | raw => simp [read, readsOn, hr, Incoming.ends]
  | close body =>
    cases hf : f.closeFired <;> simp [read, setState, hf, readsOn, hr, Incoming.ends]
  | closed | ended => exact finish_ends.1
  | failed reason => rfl

/-- A reader that reads on remembers whether it was stopped. -/
theorem closeFired_read (hi : item.ends = false) :
    (f.read item).1.closeFired = (f.closeFired || item.stops) := by
  cases item with
  | binary data | text data => cases hf : f.closeFired <;> simp [read, hf, Incoming.stops]
  | ping | pong | raw => simp [read, Incoming.stops]
  | close body => cases hf : f.closeFired <;> simp [read, setState, hf, Incoming.stops]
  | closed | ended | failed => cases hi

/-- Whatever stops the messages closes the channel. -/
theorem closed_read (hi : item.stops = true) : (f.read item).1.channel.state = .closed := by
  cases item with
  | binary | text | ping | pong | raw => cases hi
  | close body => cases hf : f.closeFired <;> simp [read, setState, hf]
  | closed | ended => simp [read]
  | failed reason => rfl

/-- One event is queued, and the others are still to come. -/
theorem pending_queueing (hr : f.reader = .queueing event afterwards) :
    f.pending = event :: (f.readOn afterwards).pending := by
  cases afterwards with
  | continues | stops => simp [pending, hr, readOn, stop]
  | finishes =>
    rw [readOn, finish_ends.2]
    simp [pending, hr]

theorem readsOn_queueing (hr : f.reader = .queueing event afterwards) :
    (f.readOn afterwards).readsOn = f.readsOn ∧
    (f.readsOn = true → (f.readOn afterwards).closeFired = f.closeFired) := by
  cases afterwards with
  | continues | stops => simp [readsOn, hr, readOn, stop]
  | finishes =>
    rw [readOn, finish_ends.1]
    simp [readsOn, hr]

/-! ### What is told -/

/-- How items, events and the reader fit together while somebody may take the events. -/
structure Told (f : Feed) (log : List Entry) : Prop where
  queued : queued log ++ f.pending = due (items log)
  delivered : took log ++ f.events.waiting = Feed.queued log
  readsOn : f.readsOn = !(items log).any Incoming.ends
  closeFired : f.readsOn = true → f.closeFired = (items log).any Incoming.stops
  closed : (items log).any Incoming.stops = true → f.channel.state = .closed
  /-- Nothing is read after an error or the end. -/
  last : (items log).Pairwise fun item _ => item.ends = false

/-- Callers and the writer neither read nor queue anything. -/
theorem unseen_of_step {c c' : Channel} (h : c.Step c' now) :
    items now = [] ∧ Feed.queued now = [] ∧ took now = [] := by
  cases h <;> exact ⟨rfl, rfl, rfl⟩

/-- An owner that takes no more events never takes any again. -/
theorem Step.receiverGone (h : f.Step f' now) (halive : f'.events.receiverGone = false) :
    f.events.receiverGone = false := by
  cases h with
  | ask | take | miss => exact halive
  | read => exact (eq_or_dropSender (read_events _)).2.symm.trans halive
  | queue _ hgone => exact hgone
  | waste _ hgone => simp [hgone] at halive
  | drop => simp [dropEvents, EventQueue.dropReceiver] at halive

namespace Told

theorem start {capacity : Nat} (h : accept? capacity = some f) : f.Told [] := by
  unfold accept? at h
  dsimp only at h
  split at h <;> cases h
  exact ⟨rfl, rfl, rfl, fun _ => rfl, by simp [items], .nil⟩

theorem read (t : f.Told log) (hr : f.reader = .reading) :
    (f.read item).1.Told (log ++ [.read item]) := by
  have hon : f.readsOn = true := by simp [Feed.readsOn, hr]
  have hnone : f.pending = [] := by simp [pending, hr]
  have hopen : (items log).any Incoming.ends = false := by simpa [hon] using t.readsOn
  have hfired := t.closeFired hon
  -- What the item gives depends on whether the messages were stopped before it.
  have hdue : due (items log ++ [item]) =
      due (items log) ++ if f.closeFired then errors [item] else due [item] := by
    cases hstopped : (items log).any Incoming.stops with
    | true => rw [due_append_of_stopped hstopped, hfired, hstopped, if_pos rfl]
    | false => rw [due_append_of_open hstopped, hfired, hstopped, if_neg Bool.false_ne_true]
  refine ⟨?_, ?_, ?_, fun h => ?_, fun h => ?_, ?_⟩
  · rw [pending_read hr]
    simp [Entry.queued?, Entry.item?, hdue, ← t.queued, hnone]
  · rw [(eq_or_dropSender (read_events item)).1]
    simpa [Entry.queued?, Entry.took?] using t.delivered
  · rw [readsOn_read hr]
    simp [Entry.item?, hopen]
  · rw [readsOn_read hr] at h
    rw [closeFired_read (by simpa using h), hfired]
    simp [Entry.item?]
  · cases hi : item.stops with
    | true => exact closed_read hi
    | false =>
      have hbefore : (items log).any Incoming.stops = true := by simpa [Entry.item?, hi] using h
      exact ReadyState.eq_closed_of_code_le (Step.read hr).code_le (t.closed hbefore)
  · rw [items_append, items_singleton]
    refine List.pairwise_append.mpr ⟨t.last, List.pairwise_singleton .., fun before hm _ _ => ?_⟩
    simpa using List.any_eq_false.mp hopen before hm

theorem queue (t : f.Told log) (hr : f.reader = .queueing event afterwards)
    (hf : f' = { f with events := { f.events with waiting := f.events.waiting ++ [event] } }) :
    (f'.readOn afterwards).Told (log ++ [.queued event]) := by
  have hr' : f'.reader = .queueing event afterwards := by rw [hf, hr]
  obtain ⟨hreadsOn, hfired⟩ := readsOn_queueing hr'
  have hsame : f'.readsOn = f.readsOn ∧ f'.closeFired = f.closeFired := by simp [hf, Feed.readsOn]
  refine ⟨?_, ?_, ?_, fun h => ?_, fun h => ?_, ?_⟩
  · have hpending : f.pending = event :: (f'.readOn afterwards).pending := by
      rw [← pending_queueing hr', hf]
      rfl
    simp [Entry.queued?, Entry.item?, ← t.queued, hpending]
  · rw [(eq_or_dropSender (readOn_events _)).1]
    simp [Entry.queued?, Entry.took?, ← t.delivered, hf]
  · simp [Entry.item?, hreadsOn, hsame, t.readsOn]
  · rw [hreadsOn] at h
    simp [Entry.item?, hfired h, hsame, t.closeFired (hsame.1 ▸ h)]
  · have hclosed : f.channel.state = .closed := t.closed (by simpa [Entry.item?] using h)
    rcases readOn_channel (f := f') afterwards with hc | hc <;> rw [hc]
    simpa [hf] using hclosed
  · simpa [Entry.item?] using t.last

/-- Something else happens than a step of the reader. -/
theorem aside (t : f.Told log) (hreader : f'.reader = f.reader)
    (hfired : f'.closeFired = f.closeFired)
    (hcode : f.channel.state.code ≤ f'.channel.state.code) (hitems : items now = [])
    (hqueued : Feed.queued now = [])
    (hdelivered : took (log ++ now) ++ f'.events.waiting = Feed.queued log) :
    f'.Told (log ++ now) := by
  have hpending : f'.pending = f.pending := by simp [pending, hreader, hfired]
  have hreadsOn : f'.readsOn = f.readsOn := by simp [Feed.readsOn, hreader]
  have hsame : items (log ++ now) = items log := by simp [hitems]
  refine ⟨?_, ?_, ?_, ?_, fun hstopped => ?_, ?_⟩
  · simpa [hsame, hqueued, hpending] using t.queued
  · simpa [hqueued] using hdelivered
  · rw [hsame, hreadsOn, t.readsOn]
  · rw [hsame, hreadsOn, hfired]
    exact t.closeFired
  · exact ReadyState.eq_closed_of_code_le hcode (t.closed (hsame ▸ hstopped))
  · rw [hsame]
    exact t.last

theorem step (t : f.Told log) (halive : f'.events.receiverGone = false) (h : f.Step f' now) :
    f'.Told (log ++ now) := by
  have hcode := h.code_le
  cases h with
  | ask hs =>
    obtain ⟨hitems, hqueued, htook⟩ := unseen_of_step hs
    exact t.aside rfl rfl hcode hitems hqueued (by simpa [htook] using t.delivered)
  | read hr => exact t.read hr
  | queue hr => exact t.queue hr rfl
  | waste _ hgone => simp [hgone] at halive
  | take hw =>
    exact t.aside rfl rfl hcode rfl rfl (by simpa [Entry.took?, hw] using t.delivered)
  | miss => simpa using t
  | drop => simp [dropEvents, EventQueue.dropReceiver] at halive

end Told

/-- What the reader fires. -/
structure Fires (f : Feed) (log : List Entry) : Prop where
  /-- What is queued, with what the reader is still to queue, is what is due for the items read. -/
  queued : queued log ++ f.pending = due (items log)
  /-- Pings, pongs and raw frames give nothing. -/
  idle : Feed.queued log ++ f.pending = due ((items log).filter (!·.idle))
  /-- The owner gets what is queued, in order. -/
  delivered : took log ++ f.events.waiting = Feed.queued log
  /-- The messages are those before the first close or error, in order and with their bytes. -/
  messages : (Feed.queued log ++ f.pending).filterMap ChannelEvent.message? =
    ((items log).takeWhile (!·.stops)).filterMap Incoming.message?
  /-- No message follows a close or an error. -/
  last_message : (Feed.queued log).Pairwise fun e e' => e.message? = none → e'.message? = none
  close_le : (Feed.queued log).count .close ≤ 1
  close_eq : f.reader = .ended → (Feed.queued log).count .close = 1
  /-- An error is told for a failure, after which nothing is read. -/
  errors : (Feed.queued log ++ f.pending).filterMap ChannelEvent.error? =
    (items log).filterMap Incoming.failure?
  last_item : (items log).Pairwise fun item _ => item.ends = false
  error_le : ((items log).filterMap Incoming.failure?).length ≤ 1
  /-- The channel is closed when the first close or error is fired. -/
  closed : (∃ e ∈ Feed.queued log ++ f.pending, e.message? = none) → f.channel.state = .closed
  /-- The reader ends after an error or the end, once all is queued. -/
  ended_iff : f.reader = .ended ↔ f.pending = [] ∧ ∃ item ∈ items log, item.ends = true
  /-- The reader reads on unless an event of its own waits for room. -/
  goesOn : f.pending = [] → f.reader ≠ .ended → ∀ item, (f.act? (.read item)).isSome
  /-- An event waits only while the queue is full. -/
  waits : f.pending ≠ [] → f.act? .queue = none → f.events.capacity ≤ f.events.waiting.length

/-- The reader has ended if nothing is left to queue and nothing more is read. -/
theorem ended_iff_readsOn : f.reader = .ended ↔ f.pending = [] ∧ f.readsOn = false := by
  rcases hr : f.reader with _ | ⟨event, _ | _ | _⟩ | _ <;> simp [pending, readsOn, hr]

/-- A reader with nothing to queue reads, or has ended. -/
theorem reading_of_pending (h : f.pending = []) (hr : f.reader ≠ .ended) : f.reader = .reading := by
  rcases hreader : f.reader with _ | ⟨event, _ | _ | _⟩ | _ <;> simp [pending, hreader] at h hr ⊢

/-- An event that somebody may take waits only while the queue is full. -/
theorem full_of_queue?_eq_none (halive : f.events.receiverGone = false) (hp : f.pending ≠ [])
    (h : f.queue? = none) : f.events.capacity ≤ f.events.waiting.length := by
  cases hr : f.reader with
  | reading | ended => simp [pending, hr] at hp
  | queueing event afterwards =>
    by_contra hroom
    simp [queue?, hr, EventQueue.offer, halive, hroom] at h

theorem Told.fires (t : f.Told log) (halive : f.events.receiverGone = false) : f.Fires log := by
  have hends : f.readsOn = false ↔ ∃ item ∈ items log, item.ends = true := by
    rw [t.readsOn]
    simp
  have hended : f.reader = .ended ↔ f.pending = [] ∧ ∃ item ∈ items log, item.ends = true := by
    rw [ended_iff_readsOn, hends]
  refine {
    queued := t.queued
    idle := by rw [t.queued, due_filter_idle]
    delivered := t.delivered
    messages := by rw [t.queued, filterMap_message?_due]
    last_message := ?_
    close_le := ?_
    close_eq := fun hr => ?_
    errors := by rw [t.queued, filterMap_error?_due]
    last_item := t.last
    error_le := length_failures_le_one t.last
    closed := ?_
    ended_iff := hended
    goesOn := fun hp hr item => ?_
    waits := fun hp hq => ?_ }
  · exact (List.pairwise_append.mp (t.queued ▸ due_pairwise (items log))).1
  · have hcount := count_close_due (items log)
    rw [← t.queued, List.count_append] at hcount
    split at hcount <;> omega
  · obtain ⟨hp, item, hm, he⟩ := hended.mp hr
    have hstopped : (items log).any Incoming.stops = true :=
      List.any_eq_true.mpr ⟨item, hm, Incoming.stops_of_ends he⟩
    have hqueued := t.queued
    rw [hp, List.append_nil] at hqueued
    rw [hqueued, count_close_due, if_pos hstopped]
  · rintro ⟨e, hm, he⟩
    exact t.closed (any_stops_of_mem_due (t.queued ▸ hm) he)
  · simp [act?, reading_of_pending hp hr]
  · exact full_of_queue?_eq_none halive hp (Option.map_eq_none_iff.mp hq)

/-- Whatever the socket yields, and whatever callers and the writer do meanwhile, the reader fires
what is due while somebody may take the events; and a closed channel stays closed. -/
theorem fires_due {capacity : Nat} {f₀ : Feed} {acts : List Act}
    (hcap : accept? capacity = some f₀) (h : f₀.run? acts = some (f, log))
    (halive : f.events.receiverGone = false) :
    f.Fires log ∧
    ∀ more f' later, f.run? more = some (f', later) → f.channel.state = .closed →
      f'.channel.state = .closed := by
  have told : f.events.receiverGone = false → f.Told log :=
    run?_induction (P := fun f log => f.events.receiverGone = false → f.Told log) []
      (fun _ _ _ _ ih hs halive => (ih (hs.receiverGone halive)).step halive hs) h
      fun _ => .start hcap
  refine ⟨(told halive).fires halive, fun more f' later hmore hclosed => ?_⟩
  exact ReadyState.eq_closed_of_code_le (run?_code_le hmore) hclosed

/-- The peer closes, sends another message, and the socket fails after that. The queue is full
twice. At the end somebody asks for the close. -/
theorem fires_due_failing : ∃ f₀ acts f log more f' later,
    accept? 1 = some f₀ ∧ f₀.run? acts = some (f, log) ∧ f.events.receiverGone = false ∧
    f.run? more = some (f', later) ∧ f.channel.state = .closed ∧
    items log = [.binary [1], .ping, .close none, .text [2], .failed "reset"] ∧
    Feed.queued log = [.message [1], .close, .error (.transport "reset")] ∧
    f.reader = .ended ∧ f.Fires log ∧ f'.channel.state = .closed := by
  let acts : List Act := [.read (.binary [1]), .queue, .read .ping, .read (.close none),
    .takeEvent, .queue, .read (.text [2]), .read (.failed "reset"), .takeEvent, .queue]
  let f₀ : Feed := { events := { capacity := 1 } }
  let f : Feed := {
    channel := { state := .closed }
    events := { capacity := 1, waiting := [.error (.transport "reset")], senderGone := true }
    reader := .ended
    closeFired := true }
  let f' : Feed := { f with channel := { state := .closed, commands := [.close] } }
  have hcap : accept? 1 = some f₀ := by decide
  have hrun : f₀.run? acts = some (f, [.read (.binary [1]), .queued (.message [1]), .read .ping,
    .read (.close none), .took (.message [1]), .queued .close, .read (.text [2]),
    .read (.failed "reset"), .took .close, .queued (.error (.transport "reset"))]) := rfl
  have hmore : f.run? [.close] = some (f', [.closed (.ok ())]) := rfl
  obtain ⟨hfires, hstays⟩ := fires_due hcap hrun rfl
  exact ⟨f₀, acts, f, _, _, f', _, hcap, hrun, rfl, hmore, rfl, rfl, rfl, rfl, hfires,
    hstays _ _ _ hmore rfl⟩

end Feed

end Tunnel.WebSocket
