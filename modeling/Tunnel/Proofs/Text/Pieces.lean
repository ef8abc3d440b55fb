import Tunnel.Text.Split

/-!
# Pieces between separators

Cutting at a separator and joining with it undo each other.

## Main statements

* `pieces_intercalate` — pieces without separators come back from their join.
* `intercalate_pieces`, `notMem_of_mem_pieces` — the pieces of any text join to it, and none of
  them holds a separator.
-/

namespace Tunnel.Text

theorem pieces_eq_splitOn (sep : Char) (cs : List Char) : pieces sep cs = cs.splitOn sep := by
  induction cs with
  | nil => rfl
  | cons c cs ih =>
    rw [pieces, ih, List.splitOn_cons_eq_if_modifyHead]
    by_cases hc : c = sep
    · simp [hc]
    · rw [if_neg hc, if_neg (by simpa using hc)]
      cases h : cs.splitOn sep with
      | nil => exact (List.splitOn_ne_nil _ _ h).elim
      | cons piece more => rfl

variable {sep : Char}

theorem pieces_intercalate {parts : List (List Char)} (hne : parts ≠ [])
    (h : ∀ part ∈ parts, sep ∉ part) : pieces sep ([sep].intercalate parts) = parts := by
  rw [pieces_eq_splitOn, List.splitOn_intercalate _ h hne]

theorem intercalate_pieces (sep : Char) (cs : List Char) :
    [sep].intercalate (pieces sep cs) = cs := by
  rw [pieces_eq_splitOn, List.intercalate_splitOn]

/-- The pieces hold everything but the separators. -/
theorem flatten_pieces (sep : Char) (cs : List Char) :
    (pieces sep cs).flatten = cs.filter (· ≠ sep) := by
  fun_induction pieces sep cs with
  | case1 => rfl
  | case2 rest ih => simpa using ih
  | case3 c rest _ h => exact (pieces_ne_nil sep rest h).elim
  | case4 c rest hc piece more h ih => simpa [hc, h] using ih

theorem notMem_of_mem_pieces {cs piece : List Char} (h : piece ∈ pieces sep cs) :
    sep ∉ piece := by
  intro hsep
  have hmem : sep ∈ (pieces sep cs).flatten := List.mem_flatten.2 ⟨piece, h, hsep⟩
  simp [flatten_pieces] at hmem

end Tunnel.Text
