import Mathlib.Data.List.Basic
import Tunnel.WebSocket.Channel

/-!
# One WebSocket by itself

A WebSocket in the hands of any owner, over any source and any sink: callers send and close, the
writer and the reader take their steps, the socket yields what it likes and takes or refuses what it
is given, and the owner takes events or does not, all of this in any order. This module says once
what an act can do; what is proved of WebSockets rests on `Feed.Step` and not on the functions
behind it.

## Main definitions

* `Feed.Act`, `Feed.act?`, `Feed.run?` — what can happen to a WebSocket.
* `Feed.Entry` — what is seen of it.
* `Channel.Step`, `Feed.Step` — what an act can do.

## Main statements

* `Feed.act?_step` — every act is such a step.
* `Feed.run?_induction` — what steps keep, runs keep.
* `Feed.run?_code_le` — the readiness only moves forward.
* `Socket.run_acts` — the steps over the protocol are such acts.
-/

namespace Tunnel

namespace ReadyState

variable {s s' : ReadyState}

/-- Nothing comes after closed. -/
theorem code_le_closed (s : ReadyState) : s.code ≤ closed.code := by
  cases s <;> simp [code]

theorem eq_closed_of_code_le (h : s.code ≤ s'.code) (hs : s = .closed) : s' = .closed := by
  subst hs
  cases s' <;> simp [code] at h ⊢

/-- What is past open never becomes open again. -/
theorem ne_opened_of_code_le (h : s.code ≤ s'.code) (hs : s ≠ .opened) (hc : s ≠ .connecting) :
    s' ≠ .opened := by
  rintro rfl
  cases s <;> simp [code] at h hs hc

end ReadyState

namespace WebSocket

namespace Feed

/-- What can happen to a WebSocket. -/
inductive Act
  | send (data : Bytes)
  | close
  /-- Nobody asks the writer any more. -/
  | abandon
  /-- The writer takes its next step. What it sends, if anything, is taken or refused. -/
  | write (taken : Except String Unit)
  /-- The socket yields an item to the reader. -/
  | read (item : Incoming)
  /-- The reader puts its event into the queue. -/
  | queue
  | takeEvent
  | dropEvents

/-- What is seen of an act. -/
inductive Entry
  /-- A call to send, and its answer. -/
  | sent (data : Bytes) (answer : SendResult)
  /-- A call to close, and its answer. -/
  | closed (answer : Except ChannelError Unit)
  /-- The writer gave the sink something, which took or refused it. -/
  | wrote (command : Command) (taken : Except String Unit)
  | read (item : Incoming)
  | queued (event : ChannelEvent)
  /-- The owner took an event. -/
  | took (event : ChannelEvent)

/-- The event that the reader puts into the queue, if somebody may take it. -/
def offered (f : Feed) : Option ChannelEvent :=
  match f.reader with
  | .queueing event _ => if f.events.receiverGone then none else some event
  | .reading | .ended => none

/-- What an act does and what is seen of it; `none` if it must wait or nobody can do it. -/
def act? (f : Feed) : Act → Option (Feed × List Entry)
  | .send data =>
    let (answer, channel) := f.channel.send data
    some ({ f with channel }, [.sent data answer])
  | .close =>
    let (answer, channel) := f.channel.close
    some ({ f with channel }, [.closed answer])
  | .abandon => some ({ f with channel := f.channel.abandon }, [])
  | .write taken =>
    (f.channel.write? (fun _ _ => (taken, ())) ()).map fun (channel, _, _) =>
      ({ f with channel }, f.channel.commands.head?.toList.map (.wrote · taken))
  | .read item => if f.reader = .reading then some ((f.read item).1, [.read item]) else none
  | .queue => f.queue?.map fun f' => (f', f.offered.toList.map .queued)
  | .takeEvent => some (f.takeEvent.2, f.takeEvent.1.toList.map .took)
  | .dropEvents => some (f.dropEvents, [])

/-- A sequence of acts with all that is seen; `none` if one of them is impossible. -/
def run? (f : Feed) : List Act → Option (Feed × List Entry)
  | [] => some (f, [])
  | a :: rest =>
    (f.act? a).bind fun (f', now) => (run? f' rest).map fun (f'', later) => (f'', now ++ later)

end Feed

open Feed (Entry)

/-! ### Steps -/

namespace Channel

/-- What callers and the writer can do to a channel. -/
inductive Step (c : Channel) : Channel → List Entry → Prop
  | accept {data : Bytes} : c.state = .opened → c.writerEnded = false →
      Step c { c with commands := c.commands ++ [.binary data] } [.sent data .sent]
  /-- The channel is open, but its writer is not there. -/
  | lose {data : Bytes} : c.state = .opened → c.writerEnded = true →
      Step c c [.sent data (.failed (.sendFailed writerGone))]
  | refuse {data : Bytes} : c.state ≠ .opened → Step c c [.sent data (.failed .closed)]
  | close {state : ReadyState} : c.writerEnded = false → c.state.code ≤ state.code →
      state ≠ .opened →
      Step c { c with state, commands := c.commands ++ [.close] } [.closed (.ok ())]
  | closeLate {state : ReadyState} : c.writerEnded = true → c.state.code ≤ state.code →
      state ≠ .opened → Step c { c with state } [.closed (.error (.closeFailed writerGone))]
  | abandon : Step c c.abandon []
  | write {data : Bytes} {rest : List Command} : c.writerEnded = false →
      c.commands = .binary data :: rest →
      Step c { c with commands := rest } [.wrote (.binary data) (.ok ())]
  /-- The writer sends its last. -/
  | last {command : Command} {rest : List Command} {taken : Except String Unit} :
      c.writerEnded = false → c.commands = command :: rest → (command = .close ∨ taken ≠ .ok ()) →
      Step c c.endWriter [.wrote command taken]
  | retire : c.writerEnded = false → c.commands = [] → Step c c.endWriter []

variable {c c' : Channel} {es : List Entry}

theorem send_step {data : Bytes} : c.Step (c.send data).2 [.sent data (c.send data).1] := by
  unfold send ask
  by_cases ho : c.state = .opened
  · cases hw : c.writerEnded with
    | true => simpa [ho, hw] using Step.lose ho hw
    | false => simpa [ho, hw] using Step.accept ho hw
  · simpa [ho] using Step.refuse ho

theorem close_step : c.Step c.close.2 [.closed c.close.1] := by
  unfold close ask
  by_cases ho : c.state = .opened
  · have hcode : c.state.code ≤ ReadyState.closing.code := by simp [ho, ReadyState.code]
    cases hw : c.writerEnded with
    | true => simpa [ho, hw] using Step.closeLate hw hcode (by simp)
    | false => simpa [ho, hw] using Step.close hw hcode (by simp)
  · cases hw : c.writerEnded with
    | true =>
      simp only [ho, hw, if_false, if_true]
      exact .closeLate hw (Nat.le_refl _) ho
    | false =>
      have hstep := Step.close hw (Nat.le_refl _) ho
      simpa only [ho, hw, if_false, Bool.false_eq_true] using hstep

section write

variable {S : Type} {put : S → Command → Except String Unit × S} {s s' : S} {command : Command}
  {rest : List Command} {happened : List Happening}

theorem write?_cons (put : S → Command → Except String Unit × S) (s : S)
    (hw : c.writerEnded = false) (hc : c.commands = command :: rest) :
    c.write? put s =
      some ((c.wrote command rest (put s command).1).1, (put s command).2,
        (c.wrote command rest (put s command).1).2) := by
  unfold write?
  rw [if_neg (by simp [hw]), hc]

theorem write?_nil (put : S → Command → Except String Unit × S) (s : S)
    (hw : c.writerEnded = false) (hc : c.commands = []) :
    c.write? put s = if c.abandoned then some (c.endWriter, s, []) else none := by
  unfold write?
  rw [if_neg (by simp [hw]), hc]

theorem write?_eq_none (put : S → Command → Except String Unit × S) (s : S)
    (hw : c.writerEnded = true) : c.write? put s = none := by
  unfold write?
  rw [if_pos hw]

/-- Whatever the sink is, its answer is all that matters to the channel. -/
theorem write?_taken (h : c.write? put s = some (c', s', happened)) :
    ∃ taken, c.write? (fun _ _ => (taken, ())) () = some (c', (), happened) := by
  cases hw : c.writerEnded with
  | true =>
    rw [write?_eq_none put s hw] at h
    cases h
  | false =>
    cases hc : c.commands with
    | nil =>
      rw [write?_nil put s hw hc] at h
      refine ⟨.ok (), ?_⟩
      rw [write?_nil _ _ hw hc]
      split at h <;> cases h
      exact if_pos ‹_›
    | cons command rest =>
      rw [write?_cons put s hw hc] at h
      cases h
      exact ⟨_, write?_cons _ _ hw hc⟩

theorem write?_step {taken : Except String Unit}
    (h : c.write? (fun _ _ => (taken, ())) () = some (c', (), happened)) :
    c.Step c' (c.commands.head?.toList.map (.wrote · taken)) := by
  cases hw : c.writerEnded with
  | true =>
    rw [write?_eq_none _ _ hw] at h
    cases h
  | false =>
    cases hc : c.commands with
    | nil =>
      rw [write?_nil _ _ hw hc] at h
      split at h <;> cases h
      exact .retire hw hc
    | cons command rest =>
      rw [write?_cons _ _ hw hc] at h
      cases h
      cases command with
      | binary data =>
        cases taken with
        | error e => exact .last hw hc (.inr (by simp))
        | ok => exact .write hw hc
      | close =>
        have hlast : c.Step c.endWriter [.wrote .close taken] := .last hw hc (.inl rfl)
        cases taken <;> exact hlast

end write

/-- The readiness only moves forward. -/
theorem Step.code_le (h : c.Step c' es) : c.state.code ≤ c'.state.code := by
  cases h with
  | accept | lose | refuse | abandon | write => exact Nat.le_refl _
  | close _ hcode | closeLate _ hcode => exact hcode
  | last | retire => exact c.state.code_le_closed

end Channel

/-- What a queue holds, and whether somebody may take it, does not depend on the sender. -/
theorem eq_or_dropSender {q q' : EventQueue} (h : q' = q ∨ q' = q.dropSender) :
    q'.waiting = q.waiting ∧ q'.receiverGone = q.receiverGone := by
  rcases h with rfl | rfl <;> exact ⟨rfl, rfl⟩

namespace Feed

variable {f f' : Feed} {a : Act} {acts : List Act} {es log : List Entry}

/-- What an act can do. -/
inductive Step (f : Feed) : Feed → List Entry → Prop
  | ask {channel : Channel} {es : List Entry} : f.channel.Step channel es →
      Step f { f with channel } es
  | read {item : Incoming} : f.reader = .reading → Step f (f.read item).1 [.read item]
  | queue {event : ChannelEvent} {afterwards : Afterwards} :
      f.reader = .queueing event afterwards → f.events.receiverGone = false →
      f.events.waiting.length < f.events.capacity →
      Step f
        ({ f with events := { f.events with waiting := f.events.waiting ++ [event] } }.readOn
          afterwards)
        [.queued event]
  /-- Nobody wants the reader's event. -/
  | waste {f' : Feed} : f.events.receiverGone = true → f'.events.receiverGone = true →
      (f'.channel = f.channel ∨ f'.channel = { f.channel with state := .closed }) → Step f f' []
  | take {event : ChannelEvent} {waiting : List ChannelEvent} :
      f.events.waiting = event :: waiting →
      Step f { f with events := { f.events with waiting } } [.took event]
  /-- There is no event to take. -/
  | miss : Step f f []
  | drop : Step f f.dropEvents []

theorem filterMap_singleton {β : Type} (g : Entry → Option β) (e : Entry) :
    [e].filterMap g = (g e).toList := by
  cases h : g e <;> simp [h]

/-! ### What the reader does to the channel -/

@[simp] theorem finish_channel : f.finish.channel = { f.channel with state := .closed } := by
  unfold finish
  dsimp only
  split <;> rfl

/-- The reader leaves the channel as it is, or closes it. -/
theorem readOn_channel (afterwards : Afterwards) :
    (f.readOn afterwards).channel = f.channel ∨
    (f.readOn afterwards).channel = { f.channel with state := .closed } := by
  cases afterwards with
  | continues | stops => exact .inl rfl
  | finishes => exact .inr finish_channel

theorem read_channel (item : Incoming) :
    (f.read item).1.channel = f.channel ∨
    (f.read item).1.channel = { f.channel with state := .closed } := by
  cases item with
  | binary data | text data =>
    left
    unfold read
    dsimp only
    split <;> rfl
  | ping | pong | raw => exact .inl rfl
  | close body =>
    right
    unfold read
    dsimp only
    split <;> rfl
  | closed | ended => exact .inr finish_channel
  | failed reason => exact .inr rfl

theorem finish_events :
    f.finish.events = f.events ∨ f.finish.events = f.events.dropSender := by
  unfold finish
  dsimp only
  split
  · exact .inr rfl
  · exact .inl rfl

/-- A reader that ends lets go of the queue. -/
theorem readOn_events (afterwards : Afterwards) :
    (f.readOn afterwards).events = f.events ∨
    (f.readOn afterwards).events = f.events.dropSender := by
  cases afterwards with
  | continues => exact .inl rfl
  | finishes => exact finish_events
  | stops => exact .inr rfl

theorem read_events (item : Incoming) :
    (f.read item).1.events = f.events ∨ (f.read item).1.events = f.events.dropSender := by
  cases item with
  | binary data | text data | close body =>
    left
    unfold read
    dsimp only
    split <;> rfl
  | ping | pong | raw | failed reason => exact .inl rfl
  | closed | ended => exact finish_events

theorem queue?_step (h : f.queue? = some f') : f.Step f' (f.offered.toList.map .queued) := by
  cases hr : f.reader with
  | reading | ended => simp [queue?, hr] at h
  | queueing event afterwards =>
    by_cases hg : f.events.receiverGone = true
    · have hoffered : f.offered = none := by simp [offered, hr, hg]
      simp only [queue?, hr, EventQueue.offer, if_pos hg] at h
      rw [hoffered]
      split at h <;> cases h
      · exact .waste hg ((eq_or_dropSender finish_events).2.trans hg) (.inr finish_channel)
      · exact .waste hg ((eq_or_dropSender (readOn_events _)).2.trans hg) (readOn_channel _)
    · have hoffered : f.offered = some event := by simp [offered, hr, hg]
      simp only [queue?, hr, EventQueue.offer, if_neg hg] at h
      rw [hoffered]
      by_cases hroom : f.events.capacity ≤ f.events.waiting.length
      · simp only [if_pos hroom] at h
        cases h
      · simp only [if_neg hroom] at h
        cases h
        exact .queue hr (by simpa using hg) (Nat.lt_of_not_le hroom)

/-- Every act is such a step. -/
theorem act?_step (h : f.act? a = some (f', es)) : f.Step f' es := by
  cases a with
  | send data =>
    cases h
    exact .ask Channel.send_step
  | close =>
    cases h
    exact .ask Channel.close_step
  | abandon =>
    cases h
    exact .ask .abandon
  | write taken =>
    obtain ⟨⟨channel, _, happened⟩, hw, he⟩ := Option.map_eq_some_iff.mp h
    cases he
    exact .ask (Channel.write?_step hw)
  | read item =>
    unfold act? at h
    dsimp only at h
    split at h
    · cases h
      exact .read ‹_›
    · cases h
  | queue =>
    obtain ⟨f₁, hq, he⟩ := Option.map_eq_some_iff.mp h
    cases he
    exact queue?_step hq
  | takeEvent =>
    cases h
    unfold takeEvent
    split
    · exact .miss
    · exact .take ‹_›
  | dropEvents =>
    cases h
    exact .drop

/-- A run is its first act and the rest of it. -/
theorem run?_cons {rest : List Act} (h : f.run? (a :: rest) = some (f', es)) :
    ∃ f₁ now later, f.act? a = some (f₁, now) ∧ f₁.run? rest = some (f', later) ∧
      es = now ++ later := by
  obtain ⟨⟨f₁, now⟩, ha, h⟩ := Option.bind_eq_some_iff.mp h
  obtain ⟨⟨f₂, later⟩, hrest, he⟩ := Option.map_eq_some_iff.mp h
  cases he
  exact ⟨f₁, now, later, ha, hrest, rfl⟩

/-- What steps keep, runs keep. -/
theorem run?_induction {P : Feed → List Entry → Prop} (log : List Entry)
    (hstep : ∀ f f' es log, P f log → f.Step f' es → P f' (log ++ es))
    (h : f.run? acts = some (f', es)) (hf : P f log) : P f' (log ++ es) := by
  induction acts generalizing f es log with
  | nil =>
    cases h
    simpa using hf
  | cons a rest ih =>
    obtain ⟨f₁, now, later, ha, hrest, rfl⟩ := run?_cons h
    rw [← List.append_assoc]
    exact ih _ hrest (hstep _ _ _ _ hf (act?_step ha))

theorem Step.code_le (h : f.Step f' es) : f.channel.state.code ≤ f'.channel.state.code := by
  have hclosed : ∀ c : Channel, c = f.channel ∨ c = { f.channel with state := .closed } →
      f.channel.state.code ≤ c.state.code := by
    rintro c (rfl | rfl)
    · exact Nat.le_refl _
    · exact ReadyState.code_le_closed _
  cases h with
  | ask hs => exact hs.code_le
  | read => exact hclosed _ (read_channel _)
  | queue => exact hclosed _ (readOn_channel _)
  | waste _ _ hc => exact hclosed _ hc
  | take | miss | drop => exact Nat.le_refl _

/-- The readiness only moves forward. -/
theorem run?_code_le (h : f.run? acts = some (f', es)) :
    f.channel.state.code ≤ f'.channel.state.code :=
  run?_induction (P := fun f₁ _ => f.channel.state.code ≤ f₁.channel.state.code) []
    (fun _ _ _ _ hle hs => Nat.le_trans hle hs.code_le) h (Nat.le_refl _)

/-! ### Over the protocol -/

theorem run?_of_act? (h : f.act? a = some (f', es)) : f.run? [a] = some (f', es) := by
  simp [run?, h]

theorem run?_append {more : List Act} {f'' : Feed} {later : List Entry}
    (h : f.run? acts = some (f', es)) (hmore : f'.run? more = some (f'', later)) :
    f.run? (acts ++ more) = some (f'', es ++ later) := by
  induction acts generalizing f es with
  | nil =>
    cases h
    simpa using hmore
  | cons a rest ih =>
    obtain ⟨f₁, now, es', ha, hrest, rfl⟩ := run?_cons h
    simp [run?, ha, ih hrest]

end Feed

namespace Socket

variable {s s' : Socket} {happened : List Happening}

theorem write?_act (h : s.write? = some (s', happened)) :
    ∃ a es, s.feed.act? a = some (s'.feed, es) := by
  obtain ⟨⟨channel, protocol, happened⟩, hw, he⟩ := Option.map_eq_some_iff.mp h
  cases he
  obtain ⟨taken, hw⟩ := Channel.write?_taken hw
  exact ⟨.write taken, _, congrArg (Option.map _) hw⟩

theorem read?_acts (h : s.read? = some (s', happened)) :
    ∃ acts es, s.feed.run? acts = some (s'.feed, es) := by
  unfold read? at h
  split at h
  · rename_i hr
    obtain ⟨⟨item, protocol⟩, -, he⟩ := Option.map_eq_some_iff.mp h
    cases item with
    | none =>
      cases he
      exact ⟨[], [], rfl⟩
    | some item =>
      have hfeed : (s.feed.read item).1 = s'.feed := congrArg (fun result => result.1.feed) he
      have hact : s.feed.act? (.read item) = some (s'.feed, [.read item]) := by
        rw [← hfeed]
        exact if_pos hr
      exact ⟨[.read item], _, Feed.run?_of_act? hact⟩
  · obtain ⟨feed, hq, he⟩ := Option.map_eq_some_iff.mp h
    cases he
    exact ⟨[.queue], _, Feed.run?_of_act? (congrArg (Option.map _) hq)⟩
  · cases h

/-- Reader and writer over the protocol do to the feed what they can do over any source and sink. -/
theorem run_acts (n : Nat) (s : Socket) :
    ∃ acts es, s.feed.run? acts = some ((run n s).1.feed, es) := by
  induction n generalizing s with
  | zero => exact ⟨[], [], rfl⟩
  | succ n ih =>
    unfold run
    cases hs : s.step? with
    | none => exact ⟨[], [], rfl⟩
    | some result =>
      obtain ⟨s', happened⟩ := result
      obtain ⟨acts, es, hacts⟩ : ∃ acts es, s.feed.run? acts = some (s'.feed, es) := by
        rcases Option.or_eq_some_iff.mp hs with hr | ⟨-, hw⟩
        · exact read?_acts hr
        · obtain ⟨a, es, ha⟩ := write?_act hw
          exact ⟨[a], es, Feed.run?_of_act? ha⟩
      obtain ⟨more, later, hmore⟩ := ih s'
      exact ⟨acts ++ more, es ++ later, Feed.run?_append hacts hmore⟩

end Socket

end WebSocket

end Tunnel
