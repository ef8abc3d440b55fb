import Mathlib.Data.List.TakeWhile
import Tunnel.Text.Blank

/-!
# Trimmed text

Trimming is said here by its result: the text that is left when blanks are taken off both ends
and that has none at either end.

## Main definitions

* `Blank`, `Trimmed` — nothing but blanks, and no blank at either end.

## Main statements

* `Trimmed.trim_append` — blanks around trimmed text are taken off.
* `trimmed_trim`, `exists_blanks` — what trimming leaves is trimmed, and it takes off blanks only.
-/

namespace Tunnel.Text

/-- Nothing but blanks. -/
def Blank (cs : List Char) : Prop := ∀ c ∈ cs, isBlank c

instance (cs : List Char) : Decidable (Blank cs) :=
  decidable_of_iff (cs.all isBlank = true) List.all_eq_true

/-- No blank at either end. -/
structure Trimmed (cs : List Char) : Prop where
  head : cs.head?.any isBlank = false
  last : cs.getLast?.any isBlank = false

variable {cs : List Char}

instance : Decidable (Trimmed cs) :=
  decidable_of_iff (cs.head?.any isBlank = false ∧ cs.getLast?.any isBlank = false)
    ⟨fun ⟨hhead, hlast⟩ => ⟨hhead, hlast⟩, fun h => ⟨h.head, h.last⟩⟩

theorem Blank.reverse (h : Blank cs) : Blank cs.reverse := fun c hc => h c (List.mem_reverse.1 hc)

/-! ### What trimming leaves -/

theorem head_dropWhile (cs : List Char) : (cs.dropWhile isBlank).head?.any isBlank = false := by
  have h := List.head?_dropWhile_not isBlank cs
  cases hhead : (cs.dropWhile isBlank).head? with
  | none => rfl
  | some c => simpa [hhead] using h

theorem exists_blanks_front (cs : List Char) :
    ∃ before, Blank before ∧ cs = before ++ cs.dropWhile isBlank :=
  ⟨cs.takeWhile isBlank, fun _ => List.mem_takeWhile_imp, List.takeWhile_append_dropWhile.symm⟩

/-- Trimming takes blanks off the end of what it has left of the front. -/
theorem exists_blanks_back (cs : List Char) :
    ∃ after, Blank after ∧ cs.dropWhile isBlank = trim cs ++ after := by
  obtain ⟨after, hafter, h⟩ := exists_blanks_front (cs.dropWhile isBlank).reverse
  refine ⟨after.reverse, hafter.reverse, ?_⟩
  rw [trim, ← List.reverse_append, ← h, List.reverse_reverse]

theorem exists_blanks (cs : List Char) :
    ∃ before after, Blank before ∧ Blank after ∧ cs = before ++ trim cs ++ after := by
  obtain ⟨before, hbefore, hfront⟩ := exists_blanks_front cs
  obtain ⟨after, hafter, hback⟩ := exists_blanks_back cs
  exact ⟨before, after, hbefore, hafter, by rw [List.append_assoc, ← hback, ← hfront]⟩

theorem trimmed_trim (cs : List Char) : Trimmed (trim cs) where
  head := by
    obtain ⟨after, -, hback⟩ := exists_blanks_back cs
    have hhead := head_dropWhile cs
    rw [hback] at hhead
    cases htrim : trim cs with
    | nil => rfl
    | cons c rest => simpa [htrim] using hhead
  last := by
    rw [trim, List.getLast?_reverse]
    exact head_dropWhile _

theorem mem_of_mem_trim {c : Char} (h : c ∈ trim cs) : c ∈ cs := by
  obtain ⟨before, after, -, -, hcs⟩ := exists_blanks cs
  rw [hcs]
  simp [h]

/-! ### Trimming what has blanks around it -/

theorem dropWhile_eq_self (h : cs.head?.any isBlank = false) : cs.dropWhile isBlank = cs := by
  cases cs with
  | nil => rfl
  | cons c cs => exact List.dropWhile_cons_of_neg (by simpa using h)

theorem Blank.trim_eq_nil (h : Blank cs) : trim cs = [] := by
  rw [trim, List.dropWhile_eq_nil_iff.2 h]
  rfl

theorem trim_eq_nil_iff : trim cs = [] ↔ Blank cs := by
  refine ⟨fun h => ?_, Blank.trim_eq_nil⟩
  obtain ⟨before, after, hbefore, hafter, hcs⟩ := exists_blanks cs
  rw [hcs, h, List.append_nil]
  exact List.forall_mem_append.2 ⟨hbefore, hafter⟩

theorem Trimmed.trim_append (h : Trimmed cs) {before after : List Char} (hbefore : Blank before)
    (hafter : Blank after) : trim (before ++ cs ++ after) = cs := by
  cases hcs : cs with
  | nil =>
    rw [List.append_nil]
    exact Blank.trim_eq_nil (List.forall_mem_append.2 ⟨hbefore, hafter⟩)
  | cons first rest =>
    rw [← hcs]
    have hfront : (before ++ cs ++ after).dropWhile isBlank = cs ++ after := by
      rw [List.append_assoc, List.dropWhile_append_of_pos hbefore]
      exact dropWhile_eq_self (by simpa [hcs] using h.head)
    have hback : (cs ++ after).reverse.dropWhile isBlank = cs.reverse := by
      rw [List.reverse_append, List.dropWhile_append_of_pos hafter.reverse]
      exact dropWhile_eq_self (by rw [List.head?_reverse]; exact h.last)
    rw [trim, hfront, hback, List.reverse_reverse]

end Tunnel.Text
