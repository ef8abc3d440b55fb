import Tunnel.Proofs.Json.Values

/-!
# Lists and objects in any layout

Between the parts of a list or an object any space may stand. What is between the brackets is said
here once for both, as the elements with commas between them, and the readers take it apart
whatever the space is.

## Main definitions

* `Elements`, `Tail` — the elements from the first one on, and what stands behind an element.
* `StringText`, `ListText` — a string, and a list of strings, with space in front.

## Main statements

* `elements_joinLines` — elements on lines of their own are such elements.
* `readTextList_listText` — a list of strings is read back.
-/

namespace Tunnel.Json

variable {α : Type} {Element : α → List Char → Prop}

/-! ### Elements with commas between them -/

/-- What stands behind an element: nothing but space, or a comma, an element and so on. -/
inductive Tail (Element : α → List Char → Prop) : List α → List Char → Prop
  | done {ws : List Char} (h : Space ws) : Tail Element [] ws
  | more {a : α} {as : List α} {ws text rest : List Char} (h : Space ws) (ha : Element a text)
      (hrest : Tail Element as rest) : Tail Element (a :: as) (ws ++ ',' :: (text ++ rest))

/-- Elements with commas between them. -/
inductive Elements (Element : α → List Char → Prop) : List α → List Char → Prop
  | none {ws : List Char} (h : Space ws) : Elements Element [] ws
  | some {a : α} {as : List α} {text rest : List Char} (ha : Element a text)
      (hrest : Tail Element as rest) : Elements Element (a :: as) (text ++ rest)

/-- There is a comma in front of each element but the first. -/
theorem Tail.length_le {as : List α} {text : List Char} (h : Tail Element as text) :
    as.length ≤ text.length := by
  induction h with
  | done => simp
  | more _ _ _ ih =>
    simp only [List.length_cons, List.length_append]
    omega

theorem Elements.length_le {as : List α} {text : List Char} (h : Elements Element as text) :
    as.length ≤ text.length + 1 := by
  cases h with
  | none => simp
  | some _ hrest =>
    have := hrest.length_le
    simp only [List.length_cons, List.length_append]
    omega

/-- Behind an element and before the closing bracket stands nothing that a number could go on
with. -/
theorem Tail.ended {as : List α} {text : List Char} (h : Tail Element as text) {close : Char}
    (hclose : goesOn close = false) (rest : List Char) : Ended (text ++ close :: rest) := by
  cases h with
  | done h => exact h.ended_append hclose rest
  | more h _ _ =>
    rw [List.append_assoc, List.cons_append]
    exact h.ended_append (by decide) _

/-! ### Elements on lines of their own -/

theorem exists_tail_joinLines {write : α → List Char} (h : ∀ a, Element a ('\n' :: write a))
    {close : List Char} (hclose : Space close) (a : α) (as : List α) :
    ∃ tail, Tail Element as tail ∧
      joinLines ((a :: as).map write) ++ close = write a ++ tail := by
  induction as generalizing a with
  | nil => exact ⟨close, .done hclose, rfl⟩
  | cons b as ih =>
    obtain ⟨tail, htail, hjoin⟩ := ih b
    refine ⟨[] ++ ',' :: ('\n' :: write b ++ tail), .more space_nil (h b) htail, ?_⟩
    have hstep : joinLines ((a :: b :: as).map write) ++ close =
        write a ++ ',' :: '\n' :: (joinLines ((b :: as).map write) ++ close) := by
      simp [joinLines]
    rw [hstep, hjoin]
    rfl

theorem elements_joinLines {write : α → List Char} (h : ∀ a, Element a ('\n' :: write a))
    {close : List Char} (hclose : Space close) (as : List α) :
    Elements Element as ('\n' :: (joinLines (as.map write) ++ close)) := by
  cases as with
  | nil => exact .none (List.forall_mem_cons.2 ⟨by decide, hclose⟩)
  | cons a as =>
    obtain ⟨tail, htail, hjoin⟩ := exists_tail_joinLines h hclose a as
    rw [hjoin]
    exact .some (h a) htail

/-! ### Lists of strings -/

/-- A string with space in front. -/
def StringText (s : String) (text : List Char) : Prop := ∃ ws, Space ws ∧ text = ws ++ writeString s

/-- A list of strings with space in front. -/
def ListText (xs : List String) (text : List Char) : Prop :=
  ∃ ws inner, Space ws ∧ Elements StringText xs inner ∧ text = ws ++ '[' :: (inner ++ [']'])

theorem listText_writeTexts {ws : List Char} (h : Space ws) (xs : List String) :
    ListText xs (ws ++ writeTexts xs) := by
  cases xs with
  | nil => exact ⟨ws, [], h, .none space_nil, rfl⟩
  | cons x xs =>
    have hlines : Elements StringText (x :: xs) ('\n' ::
        (joinLines ((x :: xs).map fun s => "    ".toList ++ writeString s) ++ "\n  ".toList)) :=
      elements_joinLines (fun s => ⟨"\n    ".toList, by decide, rfl⟩) (by decide) _
    refine ⟨ws, _, h, hlines, ?_⟩
    simp [writeTexts]

theorem skipSpace_stringText {s : String} {text : List Char} (h : StringText s text)
    (rest : List Char) : skipSpace (text ++ rest) = writeString s ++ rest := by
  obtain ⟨ws, hws, rfl⟩ := h
  rw [List.append_assoc, writeString, List.cons_append, hws.skipSpace_append_cons (by decide)]

theorem readText_stringText {s : String} {text : List Char} (h : StringText s text)
    (rest : List Char) : readText (text ++ rest) = .ok (s, rest) := by
  obtain ⟨ws, hws, rfl⟩ := h
  exact readText_writeString hws s rest

theorem nextElement_first {s : String} {text : List Char} (h : StringText s text)
    (rest : List Char) : nextElement true (text ++ rest) = .ok (true, writeString s ++ rest) := by
  rw [nextElement, skipSpace_stringText h]
  rfl

/-- Behind a comma an element is found as behind the opening bracket. -/
theorem nextElement_comma {ws : List Char} (h : Space ws) {s : String} {text : List Char}
    (hs : StringText s text) (rest : List Char) :
    nextElement false (ws ++ ',' :: (text ++ rest)) = nextElement true (text ++ rest) := by
  rw [nextElement_first hs, nextElement, h.skipSpace_append_cons (by decide)]
  simp [skipSpace_stringText hs, writeString]

theorem nextElement_close {ws : List Char} (h : Space ws) (first : Bool) (rest : List Char) :
    nextElement first (ws ++ ']' :: rest) = .ok (false, ']' :: rest) := by
  rw [nextElement, h.skipSpace_append_cons (by decide)]
  rfl

theorem readTexts_close {n : Nat} {first : Bool} {done : List String} {ws : List Char}
    (h : Space ws) (rest : List Char) :
    readTexts (n + 1) first done (ws ++ ']' :: rest) = .ok (done.reverse, rest) := by
  rw [readTexts, nextElement_close h]
  rfl

theorem readTexts_first {s : String} {text : List Char} (h : StringText s text) (n : Nat)
    (done : List String) (rest : List Char) :
    readTexts (n + 1) true done (text ++ rest) = readTexts n false (s :: done) rest := by
  have hread : readText (writeString s ++ rest) = .ok (s, rest) :=
    readText_writeString space_nil s rest
  rw [readTexts, nextElement_first h]
  simp [hread]

/-- The strings behind those that were read, with fuel for each of them and for the bracket. -/
theorem readTexts_tail {xs : List String} {text : List Char} (h : Tail StringText xs text) {n : Nat}
    (hn : xs.length < n) (done : List String) (rest : List Char) :
    readTexts n false done (text ++ ']' :: rest) = .ok (done.reverse ++ xs, rest) := by
  induction h generalizing n done with
  | done hws =>
    obtain ⟨n, rfl⟩ := Nat.exists_eq_succ_of_ne_zero (Nat.ne_of_gt hn)
    rw [readTexts_close hws, List.append_nil]
  | @more s xs ws text tail hws hs htail ih =>
    obtain ⟨n, rfl⟩ := Nat.exists_eq_succ_of_ne_zero (Nat.ne_of_gt (Nat.zero_lt_of_lt hn))
    have hcomma : readTexts (n + 1) false done (ws ++ ',' :: (text ++ (tail ++ ']' :: rest))) =
        readTexts n false (s :: done) (tail ++ ']' :: rest) := by
      rw [readTexts, nextElement_comma hws hs, ← readTexts, readTexts_first hs]
    rw [List.append_assoc, List.cons_append, List.append_assoc, hcomma, ih (by simpa using hn),
      List.reverse_cons, List.append_assoc, List.singleton_append]

theorem readTexts_elements {xs : List String} {text : List Char} (h : Elements StringText xs text)
    {n : Nat} (hn : xs.length < n) (rest : List Char) :
    readTexts n true [] (text ++ ']' :: rest) = .ok (xs, rest) := by
  obtain ⟨n, rfl⟩ := Nat.exists_eq_succ_of_ne_zero (Nat.ne_of_gt (Nat.zero_lt_of_lt hn))
  cases h with
  | none hws => rw [readTexts_close hws, List.reverse_nil]
  | some hs htail =>
    rw [List.append_assoc, readTexts_first hs, readTexts_tail htail (by simpa using hn)]
    rfl

theorem readTextList_listText {xs : List String} {text : List Char} (h : ListText xs text)
    (rest : List Char) : readTextList (text ++ rest) = .ok (xs, rest) := by
  obtain ⟨ws, inner, hws, hinner, rfl⟩ := h
  have hlength := hinner.length_le
  have htext : ws ++ '[' :: (inner ++ [']']) ++ rest = ws ++ '[' :: (inner ++ ']' :: rest) := by
    simp
  rw [htext, readTextList, hws.skipSpace_append_cons (by decide)]
  refine readTexts_elements hinner ?_ rest
  simp only [List.length_append, List.length_cons]
  omega

/-! ### Keys of objects -/

theorem nextKey_first {key : String} {text : List Char} (h : StringText key text)
    (rest : List Char) : nextKey true (text ++ rest) = .ok (some key, rest) := by
  have hread := readString_write key rest
  rw [nextKey, skipSpace_stringText h]
  simp [writeString, hread]

/-- Behind a comma a key is found as behind the opening bracket. -/
theorem nextKey_comma {ws : List Char} (h : Space ws) {key : String} {text : List Char}
    (hkey : StringText key text) (rest : List Char) :
    nextKey false (ws ++ ',' :: (text ++ rest)) = nextKey true (text ++ rest) := by
  have hread := readString_write key rest
  rw [nextKey_first hkey, nextKey, h.skipSpace_append_cons (by decide)]
  simp [skipSpace_stringText hkey, writeString, hread]

theorem nextKey_close {ws : List Char} (h : Space ws) (first : Bool) (rest : List Char) :
    nextKey first (ws ++ '\x7d' :: rest) = .ok (none, '\x7d' :: rest) := by
  rw [nextKey, h.skipSpace_append_cons (by decide)]
  rfl

theorem readColon_colon {ws : List Char} (h : Space ws) (rest : List Char) :
    readColon (ws ++ ':' :: rest) = .ok rest := by
  rw [readColon, h.skipSpace_append_cons (by decide)]
  rfl

end Tunnel.Json
