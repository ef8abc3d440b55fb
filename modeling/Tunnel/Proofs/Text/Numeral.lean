import Tunnel.Text.Numeral

/-!
# What decimal numerals stand for

The numerals that are read are said here without the reader: a nonempty run of digits, leading
zeros among them, with or without a plus sign in front, stands for the value of its digits.

## Main definitions

* `Digits`, `Numeral` — which texts stand for which numbers.

## Main statements

* `readNumeral?_eq_some_iff` — exactly the numerals up to the bound are read.
* `digits_toString` — what is printed of a number stands for it.
-/

namespace Tunnel.Text

/-- A nonempty run of decimal digits, and its value. -/
structure Digits (cs : List Char) (n : Nat) : Prop where
  ne_nil : cs ≠ []
  isDigit : ∀ c ∈ cs, c.isDigit
  value : Nat.ofDigitChars 10 cs 0 = n

/-- A decimal numeral, and the number it stands for. -/
inductive Numeral : List Char → Nat → Prop
  | unsigned {cs : List Char} {n : Nat} (h : Digits cs n) : Numeral cs n
  | signed {cs : List Char} {n : Nat} (h : Digits cs n) : Numeral ('+' :: cs) n

/-! ### Reading -/

theorem digit?_eq (c : Char) :
    digit? c = if c.isDigit then some (c.toNat - '0'.toNat) else none := by
  simp [digit?, Char.isDigit, Char.le_def]

theorem readDigits?_eq_some_iff {acc n : Nat} {cs : List Char} :
    readDigits? acc cs = some n ↔
      (∀ c ∈ cs, c.isDigit) ∧ Nat.ofDigitChars 10 cs acc = n := by
  induction cs generalizing acc with
  | nil => simp [readDigits?]
  | cons c cs ih =>
    by_cases hc : c.isDigit
    · simp [readDigits?, digit?_eq, hc, ih, Nat.ofDigitChars_cons]
    · simp [readDigits?, digit?_eq, hc]

theorem readUnsigned?_eq_some_iff {cs : List Char} {n : Nat} :
    readUnsigned? cs = some n ↔ Digits cs n := by
  cases cs with
  | nil => simpa using fun h : Digits [] n => h.ne_nil rfl
  | cons c cs =>
    rw [readUnsigned?_cons, readDigits?_eq_some_iff]
    exact ⟨fun ⟨hd, hn⟩ => ⟨by simp, hd, hn⟩, fun h => ⟨h.isDigit, h.value⟩⟩

/-- A run of digits has no sign. -/
theorem Digits.not_signed {cs : List Char} {n : Nat} (h : Digits ('+' :: cs) n) : False := by
  simpa using h.isDigit '+' (by simp)

/-- The numerals that are read are those of a number within the bound. -/
theorem readNumeral?_eq_some_iff {bound n : Nat} {cs : List Char} :
    readNumeral? bound cs = some n ↔ Numeral cs n ∧ n ≤ bound := by
  unfold readNumeral?
  simp only [Option.filter_eq_some_iff, decide_eq_true_eq, readUnsigned?_eq_some_iff]
  refine and_congr_left fun _ => ?_
  split
  case h_1 cs =>
    refine ⟨.signed, fun h => ?_⟩
    cases h with
    | unsigned h => exact h.not_signed.elim
    | signed h => exact h
  case h_2 cs hcs =>
    refine ⟨.unsigned, fun h => ?_⟩
    cases h with
    | unsigned h => exact h
    | signed h => exact (hcs _ rfl).elim

/-! ### Printing -/

/-- A number is printed as a run of digits of its value. -/
theorem digits_toString (n : Nat) : Digits (toString n).toList n := by
  rw [Nat.toString_eq_ofList_toDigits, String.toList_ofList]
  exact ⟨Nat.toDigits_ne_nil, fun c hc => Nat.isDigit_of_mem_toDigits (by decide) (by decide) hc,
    Nat.ofDigitChars_ten_toDigits⟩

end Tunnel.Text
