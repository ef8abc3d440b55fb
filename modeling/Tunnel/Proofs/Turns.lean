import Tunnel.Proofs.History

/-!
# Turns

A session takes the messages of its client one at a time, and has an answer to the write of each
before it takes the next. What happened can be read as a sequence of turns, one for each message.

When the fallback connection is opened, the session first writes to it what it has kept, and only
then takes further messages. This part of what happened is a replay.

## Main definitions

* `Turn`, `turns` — a message with the answer to its write, and the turns of a history.
* `Turn.accepted`, `Turn.kept` — what becomes of a message.
* `replayPart` — the part of a history in which the fallback connection gets the replay.
-/

namespace Tunnel

namespace Happening

/-- Whether a message is taken from the client. -/
def takes : Happening → Bool
  | .taken _ => true
  | _ => false

/-- Whether a connection answers a write: it takes the chunk, or refuses it. -/
def answers : Happening → Bool
  | .written _ _ | .refused _ _ => true
  | _ => false

theorem takes_iff {e : Happening} : e.takes = true ↔ ∃ message, e = .taken message := by
  cases e <;> simp [takes]

theorem concernsData_of_takes {e : Happening} (h : e.takes = true) : e.concernsData = true := by
  obtain ⟨message, rfl⟩ := takes_iff.mp h
  rfl

theorem concernsData_of_answers {e : Happening} (h : e.answers = true) : e.concernsData = true := by
  cases e <;> first | rfl | cases h

/-- No message passes where none is taken. -/
theorem at?_taken_of_not_takes {e : Happening} (h : e.takes = false) : e.at? .taken = none := by
  cases e <;> first | rfl | cases h

end Happening

/-- A message that the session has taken. -/
structure Turn where
  /-- What had happened before. -/
  before : List Happening
  message : Bytes
  /-- The first answer to a write from then on. -/
  answer : Option Happening := none
  deriving DecidableEq

namespace Turn

variable {limit : Nat} {t : Turn} {e : Happening}

/-- The turn when this happens; after the first answer nothing counts any more. -/
def hear (t : Turn) (e : Happening) : Turn :=
  if t.answer.isNone && e.answers then { t with answer := some e } else t

/-- The connection that the message is for: the fallback connection if it was opened before, and
otherwise the first one. -/
def current (t : Turn) : Nat := if opensFallback t.before then 1 else 0

/-- The connection has taken the message. -/
def accepted (t : Turn) : Bool := t.answer = some (.written t.current t.message)

/-- The connection has refused the message. -/
def refused (t : Turn) : Bool := t.answer = some (.refused t.current t.message)

/-- A message can be kept for a replay that is for the first connection, before a chunk came from
there, and that fits the limit together with all messages before. -/
def keepable (limit : Nat) (t : Turn) : Bool :=
  !opensFallback t.before && (passed (.handedOut 0) t.before).isEmpty &&
    (passed .taken t.before ++ [t.message]).flatten.length ≤ limit

/-- The write of the message has failed, and the message was kept for a replay. -/
def kept (limit : Nat) (t : Turn) : Bool := t.refused && t.keepable limit

/-- The message was passed on, or kept. -/
def Settled (limit : Nat) (t : Turn) : Prop := t.accepted = true ∨ t.kept limit = true

theorem hear_of_answer (h : t.answer ≠ none) : t.hear e = t := by
  unfold hear
  rw [if_neg]
  simp [h]

theorem hear_of_not_answers (h : e.answers = false) : t.hear e = t := by
  unfold hear
  rw [if_neg]
  simp [h]

theorem hear_of_answers (ha : t.answer = none) (h : e.answers = true) :
    t.hear e = { t with answer := some e } := by
  unfold hear
  rw [if_pos]
  simp [ha, h]

theorem answer_of_accepted (h : t.accepted = true) : t.answer ≠ none := by
  rw [of_decide_eq_true h]
  simp

theorem answer_of_refused (h : t.refused = true) : t.answer ≠ none := by
  rw [of_decide_eq_true h]
  simp

theorem Settled.answer (h : t.Settled limit) : t.answer ≠ none := by
  rcases h with h | h
  · exact answer_of_accepted h
  · exact answer_of_refused (Bool.and_eq_true_iff.mp h).1

@[simp] theorem accepted_written :
    ({ t with answer := some (.written t.current t.message) } : Turn).accepted = true := by
  simp [accepted, current]

@[simp] theorem refused_refused :
    ({ t with answer := some (.refused t.current t.message) } : Turn).refused = true := by
  simp [refused, current]

/-- A message is not both taken and refused. -/
theorem not_accepted_of_refused (h : t.refused = true) : t.accepted = false := by
  simp [accepted, of_decide_eq_true h]

theorem Settled.kept_iff (h : t.Settled limit) : t.kept limit = true ↔ t.accepted = false := by
  constructor
  · exact fun hk => not_accepted_of_refused (Bool.and_eq_true_iff.mp hk).1
  · exact fun ha => h.resolve_left (by simp [ha])

/-- After the fallback connection was opened, nothing is kept. -/
theorem not_keepable_of_opens (h : opensFallback t.before = true) : t.keepable limit = false := by
  simp [keepable, h]

/-- The turn without what concerns no data. -/
def bare (t : Turn) : Turn := { t with before := t.before.filter Happening.concernsData }

section bare

theorem hear_bare : t.bare.hear e = (t.hear e).bare := by
  unfold hear bare
  split <;> rfl

@[simp] theorem opensFallback_bare : opensFallback t.bare.before = opensFallback t.before :=
  fallback_filter_concernsData.1

@[simp] theorem current_bare : t.bare.current = t.current := by
  simp [current]

@[simp] theorem accepted_bare : t.bare.accepted = t.accepted := by
  simp only [accepted, current_bare]
  rfl

@[simp] theorem refused_bare : t.bare.refused = t.refused := by
  simp only [refused, current_bare]
  rfl

@[simp] theorem keepable_bare : t.bare.keepable limit = t.keepable limit := by
  simp only [keepable, opensFallback_bare]
  simp only [bare, passed_filter_concernsData]

@[simp] theorem kept_bare : t.bare.kept limit = t.kept limit := by
  simp [kept]

@[simp] theorem settled_bare : t.bare.Settled limit ↔ t.Settled limit := by
  simp [Settled]

end bare

end Turn

/-- The turns of a history, the last one first. -/
def turns (h : List Happening) : List Turn := go h.reverse
where
  /-- The turns of a history that is given backwards. -/
  go : List Happening → List Turn
    | [] => []
    | .taken message :: earlier => { before := earlier.reverse, message } :: go earlier
    | e :: earlier => (go earlier).modifyHead (·.hear e)

section turns

variable {limit : Nat} {ts : List Turn} {e : Happening} {h h' : List Happening} {message : Bytes}

@[simp] theorem turns_nil : turns [] = [] := rfl

theorem turns_append_taken :
    turns (h ++ [.taken message]) = { before := h, message } :: turns h := by
  simp [turns, turns.go]

theorem turns_append_of_not_takes (he : e.takes = false) :
    turns (h ++ [e]) = (turns h).modifyHead (·.hear e) := by
  have hr : (h ++ [e]).reverse = e :: h.reverse := by simp
  unfold turns
  rw [hr]
  cases e <;> first | rfl | cases he

/-- Whatever is neither a message nor an answer goes by. -/
theorem turns_append_of_quiet (hq : ∀ e ∈ h', e.takes = false ∧ e.answers = false) :
    turns (h ++ h') = turns h := by
  induction h' generalizing h with
  | nil => simp
  | cons e h' ih =>
    obtain ⟨⟨ht, ha⟩, hq⟩ := List.forall_mem_cons.mp hq
    have hid : (fun t : Turn => t.hear e) = id := funext fun t => t.hear_of_not_answers ha
    rw [List.append_cons, ih hq, turns_append_of_not_takes ht, hid]
    cases turns h <;> rfl

/-- After its answer, a turn hears nothing. -/
theorem turns_append_of_answered (he : e.takes = false) (ha : ∀ t ∈ turns h, t.answer ≠ none) :
    turns (h ++ [e]) = turns h := by
  rw [turns_append_of_not_takes he]
  cases ht : turns h with
  | nil => rfl
  | cons t ts =>
    have : t.hear e = t := Turn.hear_of_answer (ha t (by simp [ht]))
    simp [this]

/-- Each message has its turn. -/
theorem length_turns : (turns h).length = (passed .taken h).length := by
  induction h using List.reverseRecOn with
  | nil => rfl
  | append_singleton h e ih =>
    cases he : e.takes with
    | true =>
      obtain ⟨message, rfl⟩ := Happening.takes_iff.mp he
      simp [turns_append_taken, ih, Happening.at?, Happening.station?]
    | false =>
      simp [turns_append_of_not_takes he, ih, Happening.at?_taken_of_not_takes he]

/-- Leaving out what concerns no data leaves the turns. -/
theorem turns_filter_concernsData :
    turns (h.filter Happening.concernsData) = (turns h).map Turn.bare := by
  induction h using List.reverseRecOn with
  | nil => rfl
  | append_singleton h e ih =>
    cases he : e.takes with
    | true =>
      obtain ⟨message, rfl⟩ := Happening.takes_iff.mp he
      simp only [List.filter_append, turns_append_taken, List.map_cons, ← ih]
      exact turns_append_taken
    | false =>
      rw [turns_append_of_not_takes he, List.filter_append]
      cases hc : e.concernsData with
      | true =>
        simp only [List.filter_cons, hc, if_true, List.filter_nil, turns_append_of_not_takes he, ih]
        cases turns h <;> simp [Turn.hear_bare]
      | false =>
        have ha : e.answers = false := by
          by_contra ha
          simp [Happening.concernsData_of_answers (by simpa using ha)] at hc
        have hid : (fun t : Turn => t.hear e) = id := funext fun t => t.hear_of_not_answers ha
        rw [hid]
        simp only [List.filter_cons, hc, Bool.false_eq_true, if_false, List.filter_nil,
          List.append_nil, ih]
        cases turns h <;> rfl

/-- Turns in which every message was passed on or kept. -/
theorem countP_accepted_add_kept (hs : ∀ t ∈ ts, t.Settled limit) :
    ts.countP Turn.accepted + ts.countP (Turn.kept limit) = ts.length := by
  have hk : ts.countP (Turn.kept limit) = ts.countP fun t => !t.accepted :=
    List.countP_congr fun t ht => by simp [(hs t ht).kept_iff]
  rw [hk, List.length_eq_countP_add_countP Turn.accepted]
  simp

end turns

/-! ### The replay -/

/-- What happened from the opening of the fallback connection on, until the next message was
taken. -/
def replayPart (h : List Happening) : List Happening :=
  (sinceFallback h).takeWhile fun e => !e.takes

section replayPart

variable {h h' : List Happening}

theorem passed_taken_eq_nil_iff : passed .taken h = [] ↔ ∀ e ∈ h, (!e.takes) = true := by
  rw [List.eq_nil_iff_forall_not_mem]
  constructor
  · intro hn e he
    by_contra ht
    obtain ⟨message, rfl⟩ := Happening.takes_iff.mp (by simpa using ht)
    exact hn message (mem_passed.mpr ⟨_, he, rfl⟩)
  · intro hn data hd
    obtain ⟨e, he, hs⟩ := mem_passed.mp hd
    have := hn e he
    cases e <;> simp_all [Happening.station?, Happening.takes]

theorem replayPart_of_not_opens (ho : opensFallback h = false) : replayPart h = [] := by
  rw [replayPart, sinceFallback_of_not_opens ho]
  rfl

/-- As long as no message is taken, the replay goes on. -/
theorem replayPart_append_of_untaken (ho : opensFallback h = true)
    (ht : passed .taken (sinceFallback h) = []) :
    replayPart (h ++ h') = replayPart h ++ h'.takeWhile fun e => !e.takes := by
  have hn := passed_taken_eq_nil_iff.mp ht
  unfold replayPart
  rw [sinceFallback_append ho, List.takeWhile_append_of_pos hn, List.takeWhile_eq_self_iff.mpr hn]

/-- The next message ends it. -/
theorem replayPart_append_of_taken (ho : opensFallback h = true)
    (ht : passed .taken (sinceFallback h) ≠ []) : replayPart (h ++ h') = replayPart h := by
  unfold replayPart
  rw [sinceFallback_append ho, List.takeWhile_append, if_neg]
  intro hl
  have he := (List.takeWhile_prefix (fun e : Happening => !e.takes)).eq_of_length hl
  exact ht (passed_taken_eq_nil_iff.mpr (List.takeWhile_eq_self_iff.mp he))

theorem replayPart_isPrefix (ho : opensFallback h = true) :
    replayPart h <+: replayPart (h ++ h') := by
  by_cases ht : passed .taken (sinceFallback h) = []
  · rw [replayPart_append_of_untaken ho ht]
    exact List.prefix_append ..
  · rw [replayPart_append_of_taken ho ht]

/-- What writes nothing to the fallback connection adds nothing to the replay. -/
theorem written_replayPart_append (hw : passed (.written 1) h' = [])
    (hf : opensFallback h' = false) :
    passed (.written 1) (replayPart (h ++ h')) = passed (.written 1) (replayPart h) := by
  cases ho : opensFallback h with
  | false =>
    rw [replayPart_of_not_opens ho, replayPart_of_not_opens (by simp [ho, hf])]
  | true =>
    by_cases ht : passed .taken (sinceFallback h) = []
    · have hp := (List.takeWhile_prefix (l := h') fun e : Happening => !e.takes).filterMap
        (·.at? (.written 1))
      have hn : passed (.written 1) (h'.takeWhile fun e => !e.takes) = [] := by
        simpa [show h'.filterMap (·.at? (.written 1)) = [] from hw, passed] using hp
      rw [replayPart_append_of_untaken ho ht, passed_append, hn, List.append_nil]
    · rw [replayPart_append_of_taken ho ht]

/-- Leaving out what concerns no data leaves the replay. -/
theorem replayPart_filter_concernsData :
    replayPart (h.filter Happening.concernsData) =
      (replayPart h).filter Happening.concernsData := by
  unfold replayPart
  rw [fallback_filter_concernsData.2.2]
  induction sinceFallback h with
  | nil => rfl
  | cons e h ih =>
    cases ht : e.takes with
    | true => simp [ht, Happening.concernsData_of_takes ht]
    | false => cases hc : e.concernsData <;> simp [ht, hc, ih]

end replayPart

end Tunnel
