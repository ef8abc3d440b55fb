/-!
# Cutting text at a separator

## Main definitions

* `pieces` — all pieces between the occurrences of a separator; never the empty list.
* `cut` — the text before the first separator and, if there is one, the text after it.
* `cutLast` — the same at the last separator.
-/

namespace Tunnel.Text

/-- The pieces of the text between occurrences of `sep`, empty ones included. -/
def pieces (sep : Char) : List Char → List (List Char)
  | [] => [[]]
  | c :: rest =>
    if c = sep then [] :: pieces sep rest
    else match pieces sep rest with
      | [] => [[c]]
      | piece :: more => (c :: piece) :: more

/-- The text before the first `sep`, and the text after it if there is one. -/
def cut (sep : Char) : List Char → List Char × Option (List Char)
  | [] => ([], none)
  | c :: rest =>
    if c = sep then ([], some rest)
    else
      let (before, after) := cut sep rest
      (c :: before, after)

/-- The text before and after the last `sep`, if there is one. -/
def cutLast (sep : Char) (cs : List Char) : Option (List Char × List Char) :=
  match cut sep cs.reverse with
  | (_, none) => none
  | (after, some before) => some (before.reverse, after.reverse)

theorem pieces_ne_nil (sep : Char) (cs : List Char) : pieces sep cs ≠ [] := by
  fun_induction pieces sep cs <;> simp

theorem pieces_of_notMem {sep : Char} {cs : List Char} (h : sep ∉ cs) : pieces sep cs = [cs] := by
  fun_induction pieces sep cs <;> simp_all

theorem pieces_append {sep : Char} {piece : List Char} (h : sep ∉ piece) (rest : List Char) :
    pieces sep (piece ++ sep :: rest) = piece :: pieces sep rest := by
  induction piece with
  | nil => simp [pieces]
  | cons c piece ih =>
    have hc : c ≠ sep := by
      rintro rfl
      simp at h
    simp [pieces, hc, ih fun hs => h (List.mem_cons_of_mem _ hs)]

theorem cut_of_notMem {sep : Char} {cs : List Char} (h : sep ∉ cs) : cut sep cs = (cs, none) := by
  fun_induction cut sep cs <;> simp_all

theorem cut_append {sep : Char} {front : List Char} (h : sep ∉ front) (rest : List Char) :
    cut sep (front ++ sep :: rest) = (front, some rest) := by
  induction front with
  | nil => simp [cut]
  | cons c front ih =>
    have hc : c ≠ sep := by
      rintro rfl
      simp at h
    simp [cut, hc, ih fun hs => h (List.mem_cons_of_mem _ hs)]

end Tunnel.Text
