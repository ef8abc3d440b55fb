import Mathlib.Data.List.Infix
import Mathlib.Data.List.TakeWhile
import Tunnel.Session.Step

/-!
# Histories

What a run has shown so far, oldest first, and the data in it: on its way a chunk passes
stations, and at each of them the chunks that have passed form a list.

## Main definitions

* `Station`, `passed` — the stations, and what has passed one of them.
* `World.history` — all that has happened in a run.
* `beforeFallback`, `sinceFallback` — a history cut where the fallback connection is opened.
-/

namespace Tunnel

/-- Where data passes on its way through a session, in either direction. -/
inductive Station
  /-- The session takes a chunk from the client. -/
  | taken
  /-- A connection takes a chunk for its stream. -/
  | written (connection : Nat)
  /-- The stream of a connection accepts bytes. -/
  | accepted (connection : Nat)
  /-- The stream of a connection yields bytes. -/
  | received (connection : Nat)
  /-- The reader of a connection hands a chunk out. -/
  | handedOut (connection : Nat)
  /-- A message is sent to the client. -/
  | sent
  deriving DecidableEq, Repr

namespace Happening

/-- The station that data passes, and the data. -/
def station? : Happening → Option (Station × Bytes)
  | .taken chunk => some (.taken, chunk)
  | .written i chunk => some (.written i, chunk)
  | .accepted i _ bytes => some (.accepted i, bytes)
  | .received i _ bytes => some (.received i, bytes)
  | .handedOut i chunk => some (.handedOut i, chunk)
  | .sent chunk => some (.sent, chunk)
  | _ => none

/-- The connection on which something happens between its opening and its end. -/
def connection? : Happening → Option Nat
  | .written i _ | .refused i _ | .accepted i _ _ | .writeFailed i _ | .received i _ _
  | .exhausted i _ | .handedOut i _ => some i
  | _ => none

/-- Whether connection number `i` is opened. -/
def opens (i : Nat) : Happening → Bool
  | .opened j _ => j == i
  | _ => false

/-- Whether data or its end is concerned, and not only a log, a dial or the client's close. -/
def concernsData : Happening → Bool
  | .logged _ | .dialed _ _ _ | .released _ _ | .closeSought _ | .closeCalled => false
  | _ => true

@[simp] theorem concernsData_log (level : Log.Level) (d : Destination) (text : String) :
    (log level d text).concernsData = false := rfl

end Happening

namespace Happening

/-- The data that passes station `s`, if any does. -/
def at? (s : Station) (e : Happening) : Option Bytes :=
  match e.station? with
  | some (t, data) => if t = s then some data else none
  | none => none

theorem at?_eq_some_iff {s : Station} {e : Happening} {data : Bytes} :
    e.at? s = some data ↔ e.station? = some (s, data) := by
  unfold at?
  split <;> grind

/-- What passes a station concerns data. -/
theorem at?_of_not_concernsData {e : Happening} (h : e.concernsData = false) (s : Station) :
    e.at? s = none := by
  cases e <;> first | rfl | cases h

end Happening

/-- The data that has passed a station, in order. -/
def passed (s : Station) (h : List Happening) : List Bytes := h.filterMap (·.at? s)

section passed

variable {s : Station} {e : Happening} {h h' : List Happening}

@[simp] theorem passed_nil : passed s [] = [] := rfl

@[simp] theorem passed_cons : passed s (e :: h) = (e.at? s).toList ++ passed s h := by
  unfold passed
  cases he : e.at? s <;> simp [he]

@[simp] theorem passed_append : passed s (h ++ h') = passed s h ++ passed s h' :=
  List.filterMap_append

theorem mem_passed {data : Bytes} :
    data ∈ passed s h ↔ ∃ e ∈ h, e.station? = some (s, data) := by
  simp only [passed, List.mem_filterMap, Happening.at?_eq_some_iff]

/-- What is only logged, dialed, released or closed passes no station. -/
theorem passed_filter_concernsData : passed s (h.filter Happening.concernsData) = passed s h := by
  induction h with
  | nil => rfl
  | cons e h ih =>
    by_cases he : e.concernsData
    · simp [he, ih]
    · simp [he, ih, Happening.at?_of_not_concernsData (by simpa using he)]

end passed

/-! ### What happens elsewhere -/

/-- Nothing of this happens on connection number `i`. -/
def Elsewhere (i : Nat) (h : List Happening) : Prop := ∀ e ∈ h, e.connection? ≠ some i

namespace Elsewhere

variable {i : Nat} {e : Happening} {h h' : List Happening}

@[simp] theorem nil : Elsewhere i [] := by simp [Elsewhere]

@[simp] theorem append_iff : Elsewhere i (h ++ h') ↔ Elsewhere i h ∧ Elsewhere i h' := by
  simp [Elsewhere, or_imp, forall_and]

@[simp] theorem cons_iff : Elsewhere i (e :: h) ↔ e.connection? ≠ some i ∧ Elsewhere i h := by
  simp [Elsewhere]

/-- What happens elsewhere passes no station of the connection. -/
theorem passed_eq_nil (hf : Elsewhere i h) {s : Station}
    (hs : s = .written i ∨ s = .accepted i ∨ s = .received i ∨ s = .handedOut i) :
    passed s h = [] := by
  rw [List.eq_nil_iff_forall_not_mem]
  intro data hd
  obtain ⟨e, he, hst⟩ := mem_passed.mp hd
  have := hf e he
  rcases hs with rfl | rfl | rfl | rfl <;> cases e <;>
    simp_all [Happening.station?, Happening.connection?]

theorem not_mem (hf : Elsewhere i h) (he : e.connection? = some i) : e ∉ h :=
  fun hm => hf e hm he

end Elsewhere

/-! ### The opening of the fallback connection -/

/-- What happened before the fallback connection was opened; everything if it was not. -/
def beforeFallback (h : List Happening) : List Happening := h.takeWhile fun e => !e.opens 1

/-- What happened from the opening of the fallback connection on. -/
def sinceFallback (h : List Happening) : List Happening := h.dropWhile fun e => !e.opens 1

/-- Whether the fallback connection was opened. -/
def opensFallback (h : List Happening) : Bool := h.any (·.opens 1)

section fallback

variable {h h' : List Happening}

@[simp] theorem opensFallback_nil : opensFallback [] = false := rfl

@[simp] theorem opensFallback_cons {e : Happening} :
    opensFallback (e :: h) = (e.opens 1 || opensFallback h) := rfl

@[simp] theorem opensFallback_append :
    opensFallback (h ++ h') = (opensFallback h || opensFallback h') := by
  simp [opensFallback]

theorem opensFallback_eq_false_iff : opensFallback h = false ↔ ∀ e ∈ h, (!e.opens 1) = true := by
  simp [opensFallback]

theorem beforeFallback_of_not_opens (ho : opensFallback h = false) : beforeFallback h = h :=
  List.takeWhile_eq_self_iff.mpr (opensFallback_eq_false_iff.mp ho)

theorem sinceFallback_of_not_opens (ho : opensFallback h = false) : sinceFallback h = [] :=
  List.dropWhile_eq_nil_iff.mpr (opensFallback_eq_false_iff.mp ho)

theorem beforeFallback_append_of_not_opens (ho : opensFallback h = false) :
    beforeFallback (h ++ h') = h ++ beforeFallback h' :=
  List.takeWhile_append_of_pos (opensFallback_eq_false_iff.mp ho)

theorem sinceFallback_append_of_not_opens (ho : opensFallback h = false) :
    sinceFallback (h ++ h') = sinceFallback h' :=
  List.dropWhile_append_of_pos (opensFallback_eq_false_iff.mp ho)

theorem beforeFallback_append (ho : opensFallback h = true) :
    beforeFallback (h ++ h') = beforeFallback h := by
  induction h with
  | nil => simp [opensFallback] at ho
  | cons e h ih =>
    by_cases he : e.opens 1
    · simp [beforeFallback, he]
    · simp only [opensFallback, List.any_cons, he, Bool.false_or] at ho
      simpa [beforeFallback, he] using ih ho

theorem sinceFallback_append (ho : opensFallback h = true) :
    sinceFallback (h ++ h') = sinceFallback h ++ h' := by
  induction h with
  | nil => simp [opensFallback] at ho
  | cons e h ih =>
    by_cases he : e.opens 1
    · simp [sinceFallback, he]
    · simp only [opensFallback, List.any_cons, he, Bool.false_or] at ho
      simpa [sinceFallback, he] using ih ho

/-- Leaving out what concerns no data does not move the cut. -/
theorem fallback_filter_concernsData :
    opensFallback (h.filter Happening.concernsData) = opensFallback h ∧
    beforeFallback (h.filter Happening.concernsData) =
      (beforeFallback h).filter Happening.concernsData ∧
    sinceFallback (h.filter Happening.concernsData) =
      (sinceFallback h).filter Happening.concernsData := by
  induction h with
  | nil => exact ⟨rfl, rfl, rfl⟩
  | cons e h ih =>
    obtain ⟨ho, hb, hs⟩ := ih
    by_cases he : e.opens 1
    · have hc : e.concernsData := by cases e <;> first | rfl | cases he
      simp [opensFallback, beforeFallback, sinceFallback, he, hc]
    · simp only [opensFallback, beforeFallback, sinceFallback] at ho hb hs ⊢
      by_cases hc : e.concernsData <;> simp [he, hc, ho, hb, hs]

end fallback

/-! ### The history of a world -/

/-- What has happened so far, oldest first. -/
def World.history {σ : Type} (w : World σ) : List Happening := w.trace.reverse

end Tunnel
