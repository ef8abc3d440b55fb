import Mathlib.Data.List.Basic
import Tunnel.WebSocket.Channel

/-!
# The events that are due

What an owner should be told of the items that a socket yields: a message for every message before
the first item that stops them, then one close, and an error if the socket fails, which comes before
the close if it is what stops the messages. Pings, pongs and raw frames are of no concern.

## Main definitions

* `Incoming.stops`, `Incoming.ends` — after which items no message comes through, and after which
  nothing is read.
* `due` — the events that are due for the items of a socket.

## Main statements

* `due_append_of_open`, `due_append_of_stopped` — the events for more items.
* `filterMap_message?_due`, `filterMap_error?_due`, `count_close_due`, `due_pairwise` — the
  messages, errors and closes among them, and their order.
-/

namespace Tunnel

namespace ChannelEvent

/-- The bytes of a message. -/
@[simp] def message? : ChannelEvent → Option Bytes
  | .message data => some data
  | .close | .error _ => none

/-- What went wrong, if the event says so. -/
@[simp] def error? : ChannelEvent → Option ChannelError
  | .error e => some e
  | .message _ | .close => none

end ChannelEvent

namespace WebSocket

/-! ### What is due -/

namespace Incoming

/-- The bytes of a message. -/
def message? : Incoming → Option Bytes
  | .binary data | .text data => some data
  | .ping | .pong | .raw | .close _ | .closed | .failed _ | .ended => none

/-- The error that a failure is told as. -/
def failure? : Incoming → Option ChannelError
  | .failed reason => some (.transport reason)
  | .binary _ | .text _ | .ping | .pong | .raw | .close _ | .closed | .ended => none

/-- Whether no message comes through any more: a close, an error or the end. -/
def stops : Incoming → Bool
  | .close _ | .closed | .failed _ | .ended => true
  | .binary _ | .text _ | .ping | .pong | .raw => false

/-- Whether nothing is read any more: an error or the end. -/
def ends : Incoming → Bool
  | .closed | .failed _ | .ended => true
  | .binary _ | .text _ | .ping | .pong | .raw | .close _ => false

/-- Whether it is of no concern to the owner. -/
def idle : Incoming → Bool
  | .ping | .pong | .raw => true
  | .binary _ | .text _ | .close _ | .closed | .failed _ | .ended => false

theorem stops_of_ends {item : Incoming} (h : item.ends = true) : item.stops = true := by
  cases item <;> simp [ends, stops] at h ⊢

theorem failure?_of_stops {item : Incoming} (h : item.stops = false) : item.failure? = none := by
  cases item <;> simp [stops, failure?] at h ⊢

theorem ends_of_failure? {item : Incoming} (h : item.failure? ≠ none) : item.ends = true := by
  cases item <;> simp [ends, failure?] at h ⊢

end Incoming

/-- A message for each message. -/
def messages (items : List Incoming) : List ChannelEvent :=
  (items.filterMap Incoming.message?).map .message

/-- An error for each failure. -/
def errors (items : List Incoming) : List ChannelEvent :=
  (items.filterMap Incoming.failure?).map .error

/-- The events from the item on that stops the messages. An error that stops them comes before the
close, any other after it. -/
def closing : List Incoming → List ChannelEvent
  | [] => []
  | item :: rest => errors [item] ++ .close :: errors rest

/-- The events that are due for the items of a socket. -/
def due (items : List Incoming) : List ChannelEvent :=
  messages (items.takeWhile (!·.stops)) ++ closing (items.dropWhile (!·.stops))

section due

variable {item : Incoming} {items more : List Incoming}

@[simp] theorem errors_append : errors (items ++ more) = errors items ++ errors more := by
  simp [errors]

theorem due_cons_of_stops (h : item.stops = true) :
    due (item :: items) = errors [item] ++ .close :: errors items := by
  simp [due, h, closing, messages]

theorem due_cons_of_not_stops (h : item.stops = false) :
    due (item :: items) = messages [item] ++ due items := by
  cases hm : item.message? <;> simp [due, h, messages, hm]

/-- Induction up to the first item that stops the messages. -/
@[elab_as_elim]
theorem stop_induction {P : List Incoming → Prop} (items : List Incoming) (nil : P [])
    (stop : ∀ item rest, item.stops = true → P (item :: rest))
    (pass : ∀ item rest, item.stops = false → P rest → P (item :: rest)) : P items := by
  induction items with
  | nil => exact nil
  | cons item rest ih =>
    cases h : item.stops with
    | true => exact stop item rest h
    | false => exact pass item rest h ih

/-- Nothing has stopped the messages yet. -/
theorem due_append_of_open (h : items.any Incoming.stops = false) :
    due (items ++ more) = due items ++ due more := by
  induction items using stop_induction with
  | nil => rfl
  | stop item rest hs => simp [hs] at h
  | pass item rest hs ih =>
    have hrest : rest.any Incoming.stops = false := by simpa [hs] using h
    rw [List.cons_append, due_cons_of_not_stops hs, due_cons_of_not_stops hs, ih hrest,
      List.append_assoc]

/-- Once the messages are stopped only errors are told. -/
theorem due_append_of_stopped (h : items.any Incoming.stops = true) :
    due (items ++ more) = due items ++ errors more := by
  induction items using stop_induction with
  | nil => simp at h
  | stop item rest hs => simp [due_cons_of_stops hs]
  | pass item rest hs ih =>
    have hrest : rest.any Incoming.stops = true := by simpa [hs] using h
    rw [List.cons_append, due_cons_of_not_stops hs, due_cons_of_not_stops hs, ih hrest,
      List.append_assoc]

theorem errors_filter_idle (items : List Incoming) :
    errors (items.filter (!·.idle)) = errors items := by
  rw [errors, errors, List.filterMap_filter]
  congr 2
  funext item
  cases item <;> rfl

/-- What is of no concern to the owner is not told. -/
theorem due_filter_idle (items : List Incoming) : due (items.filter (!·.idle)) = due items := by
  induction items using stop_induction with
  | nil => rfl
  | stop item rest hs =>
    have hidle : item.idle = false := by
      cases item <;> simp [Incoming.stops, Incoming.idle] at hs ⊢
    simp [hidle, due_cons_of_stops hs, errors_filter_idle]
  | pass item rest hs ih =>
    cases hidle : item.idle with
    | true =>
      have hnone : messages [item] = [] := by
        cases item <;> simp [Incoming.idle] at hidle <;> rfl
      simp [hidle, due_cons_of_not_stops hs, ih, hnone]
    | false => simp [hidle, due_cons_of_not_stops hs, ih]

theorem exists_of_mem_messages {e : ChannelEvent} (h : e ∈ messages items) :
    ∃ data, e = .message data := by
  obtain ⟨data, -, rfl⟩ := List.mem_map.mp h
  exact ⟨data, rfl⟩

theorem exists_of_mem_errors {e : ChannelEvent} (h : e ∈ errors items) :
    ∃ error, e = .error error := by
  obtain ⟨error, -, rfl⟩ := List.mem_map.mp h
  exact ⟨error, rfl⟩

@[simp] theorem filterMap_message?_messages (items : List Incoming) :
    (messages items).filterMap ChannelEvent.message? = items.filterMap Incoming.message? := by
  simp [messages, List.filterMap_map, Function.comp_def]

@[simp] theorem filterMap_message?_errors (items : List Incoming) :
    (errors items).filterMap ChannelEvent.message? = [] := by
  simp [errors, List.filterMap_map, Function.comp_def]

@[simp] theorem filterMap_error?_messages (items : List Incoming) :
    (messages items).filterMap ChannelEvent.error? = [] := by
  simp [messages, List.filterMap_map, Function.comp_def]

@[simp] theorem filterMap_error?_errors (items : List Incoming) :
    (errors items).filterMap ChannelEvent.error? = items.filterMap Incoming.failure? := by
  simp [errors, List.filterMap_map, Function.comp_def]

@[simp] theorem count_close_messages (items : List Incoming) :
    (messages items).count .close = 0 := by
  simp [List.count_eq_zero, messages]

@[simp] theorem count_close_errors (items : List Incoming) : (errors items).count .close = 0 := by
  simp [List.count_eq_zero, errors]

/-- The messages that are due are those before the first item that stops them. -/
theorem filterMap_message?_due (items : List Incoming) :
    (due items).filterMap ChannelEvent.message? =
      (items.takeWhile (!·.stops)).filterMap Incoming.message? := by
  induction items using stop_induction with
  | nil => rfl
  | stop item rest hs =>
    rw [due_cons_of_stops hs, List.filterMap_append, filterMap_message?_errors,
      List.filterMap_cons_none rfl, filterMap_message?_errors]
    simp [hs]
  | pass item rest hs ih =>
    rw [due_cons_of_not_stops hs, List.filterMap_append, ih, filterMap_message?_messages,
      ← List.filterMap_append]
    simp [hs]

/-- Every failure is told. -/
theorem filterMap_error?_due (items : List Incoming) :
    (due items).filterMap ChannelEvent.error? = items.filterMap Incoming.failure? := by
  induction items using stop_induction with
  | nil => rfl
  | stop item rest hs =>
    have hrest : (ChannelEvent.close :: errors rest).filterMap ChannelEvent.error? =
        rest.filterMap Incoming.failure? := by
      rw [List.filterMap_cons_none rfl, filterMap_error?_errors]
    rw [due_cons_of_stops hs, List.filterMap_append, filterMap_error?_errors, hrest,
      ← List.filterMap_append]
    rfl
  | pass item rest hs ih =>
    simp [due_cons_of_not_stops hs, ih, Incoming.failure?_of_stops hs]

/-- A close is told once, if anything stops the messages. -/
theorem count_close_due (items : List Incoming) :
    (due items).count .close = if items.any Incoming.stops then 1 else 0 := by
  induction items using stop_induction with
  | nil => rfl
  | stop item rest hs => simp [due_cons_of_stops hs, hs]
  | pass item rest hs ih => simp [due_cons_of_not_stops hs, hs, ih]

/-- No message follows a close or an error. -/
theorem due_pairwise (items : List Incoming) :
    (due items).Pairwise fun e e' => e.message? = none → e'.message? = none := by
  induction items using stop_induction with
  | nil => exact .nil
  | stop item rest hs =>
    rw [due_cons_of_stops hs]
    have hnone : ∀ e ∈ errors [item] ++ .close :: errors rest, e.message? = none := by
      intro e he
      obtain he | rfl | he : e ∈ errors [item] ∨ e = .close ∨ e ∈ errors rest := by simpa using he
      · obtain ⟨error, rfl⟩ := exists_of_mem_errors he
        rfl
      · rfl
      · obtain ⟨error, rfl⟩ := exists_of_mem_errors he
        rfl
    exact List.pairwise_of_forall_mem_list fun _ _ e' he' _ => hnone e' he'
  | pass item rest hs ih =>
    rw [due_cons_of_not_stops hs]
    refine List.pairwise_append.mpr ⟨?_, ih, fun e he e' _ hnone => ?_⟩
    · exact List.pairwise_map.mpr (List.pairwise_of_forall fun _ _ hnone => by simp at hnone)
    · obtain ⟨data, rfl⟩ := exists_of_mem_messages he
      simp at hnone

/-- A close or an error is told only if something stops the messages. -/
theorem any_stops_of_mem_due {e : ChannelEvent} (h : e ∈ due items) (he : e.message? = none) :
    items.any Incoming.stops = true := by
  induction items using stop_induction with
  | nil => cases h
  | stop item rest hs => simp [hs]
  | pass item rest hs ih =>
    rw [due_cons_of_not_stops hs] at h
    rcases List.mem_append.mp h with h | h
    · obtain ⟨data, rfl⟩ := exists_of_mem_messages h
      simp at he
    · simp only [List.any_cons, hs, Bool.false_or]
      exact ih h

/-- Nothing is read after a failure, so there is one at most. -/
theorem length_failures_le_one (h : items.Pairwise fun item _ => item.ends = false) :
    (items.filterMap Incoming.failure?).length ≤ 1 := by
  induction items with
  | nil => simp
  | cons item rest ih =>
    obtain ⟨hitem, hrest⟩ := List.pairwise_cons.mp h
    cases hf : item.failure? with
    | none => simpa [hf] using ih hrest
    | some error =>
      cases rest with
      | nil => simp [hf]
      | cons next rest =>
        have hends : item.ends = true := Incoming.ends_of_failure? (by simp [hf])
        rw [hitem next List.mem_cons_self] at hends
        cases hends

end due

end WebSocket

end Tunnel
