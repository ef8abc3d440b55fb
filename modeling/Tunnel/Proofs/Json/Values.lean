import Mathlib.Data.List.TakeWhile
import Tunnel.Json.Reader
import Tunnel.Json.Writer
import Tunnel.Proofs.Text.Numeral

/-!
# Strings and numbers, written and read

A string or a natural number that was written is read back, with any space in front of it, and
the text behind it is left. Behind a number there must be none of the characters that could go on
with it.

## Main definitions

* `Space` — nothing but space.
* `Ended` — the texts that do not go on with a number in front of them.

## Main statements

* `readString_write`, `readText_writeString` — strings are read back.
* `readNatural_writeNatural` — numbers of 64 bits are read back.
-/

namespace Tunnel.Json

/-! ### Space -/

/-- Nothing but space. -/
def Space (cs : List Char) : Prop := ∀ c ∈ cs, isSpace c

instance (cs : List Char) : Decidable (Space cs) :=
  decidable_of_iff (cs.all isSpace = true) List.all_eq_true

theorem space_nil : Space [] := fun _ h => absurd h List.not_mem_nil

theorem Space.skipSpace_append {ws : List Char} (h : Space ws) (cs : List Char) :
    skipSpace (ws ++ cs) = skipSpace cs :=
  List.dropWhile_append_of_pos h

theorem skipSpace_cons {c : Char} (h : isSpace c = false) (cs : List Char) :
    skipSpace (c :: cs) = c :: cs :=
  List.dropWhile_cons_of_neg (by simp [h])

/-- Space in front of a character that is none is all that is skipped. -/
theorem Space.skipSpace_append_cons {ws : List Char} (h : Space ws) {c : Char}
    (hc : isSpace c = false) (cs : List Char) : skipSpace (ws ++ c :: cs) = c :: cs := by
  rw [h.skipSpace_append, skipSpace_cons hc]

/-! ### Strings -/

theorem hexDigit?_digitChar : ∀ n < 16, hexDigit? (Nat.digitChar n) = some n := by decide

theorem hasFourBytes_hexPair :
    ∀ n < 32, 4 ≤ (String.ofList ('0' :: '0' :: hexPair n)).utf8ByteSize := by decide

theorem readFourHex_hexPair {n : Nat} (hn : n < 32) (rest : List Char) :
    readFourHex ('0' :: '0' :: (hexPair n ++ rest)) = .ok (n, rest) := by
  have hfour : hasFourBytes ('0' :: '0' :: (hexPair n ++ rest)) = true := by
    simpa [hasFourBytes, hexPair] using hasFourBytes_hexPair n hn
  have hhigh := hexDigit?_digitChar (n / 16) (by omega)
  have hlow := hexDigit?_digitChar (n % 16) (by omega)
  have hzero : hexDigit? '0' = some 0 := by decide
  simp only [hexPair, List.cons_append, List.nil_append] at hfour ⊢
  simp only [readFourHex, hfour, if_true, hzero, hhigh, hlow]
  congr 2
  omega

/-- The escape of a control character. -/
theorem readEscape_control {c : Char} (hc : c.toNat < 0x20) (rest : List Char) :
    readEscape ('u' :: '0' :: '0' :: (hexPair c.toNat ++ rest)) = .ok (c, rest) := by
  rw [readEscape, readFourHex_hexPair hc]
  have hlow : ¬ (0xD800 ≤ c.toNat ∧ c.toNat ≤ 0xDBFF) := by omega
  have hhigh : ¬ (0xDC00 ≤ c.toNat ∧ c.toNat ≤ 0xDFFF) := by omega
  simp [hlow, hhigh, Char.ofNat_toNat]

theorem readChars_plain {c : Char} (done rest : List Char) (hquote : c ≠ '"') (hslash : c ≠ '\\')
    (hc : ¬ c.toNat < 0x20) : readChars done (c :: rest) = readChars (c :: done) rest := by
  rw [readChars, if_neg hquote, if_neg hslash, if_neg hc]

theorem readChars_escape {c : Char} (done : List Char) {cs rest : List Char}
    (h : readEscape cs = .ok (c, rest)) :
    readChars done ('\\' :: cs) = readChars (c :: done) rest := by
  rw [readChars, if_neg (by decide), if_pos rfl]
  split
  case h_1 e he => simp [h] at he
  case h_2 c' rest' he =>
    rw [h] at he
    cases he
    rfl

/-- A character is read as it was written, whatever follows. -/
theorem readChars_writeChar (done : List Char) (c : Char) (rest : List Char) :
    readChars done (writeChar c ++ rest) = readChars (c :: done) rest := by
  unfold writeChar
  split_ifs
  -- The characters with a short escape of their own.
  any_goals (subst c; exact readChars_escape done rfl)
  · exact readChars_escape done (readEscape_control ‹_› rest)
  · exact readChars_plain done rest ‹_› ‹_› ‹_›

theorem readChars_flatMap (done cs rest : List Char) :
    readChars done (cs.flatMap writeChar ++ rest) = readChars (cs.reverse ++ done) rest := by
  induction cs generalizing done with
  | nil => rfl
  | cons c cs ih =>
    rw [List.flatMap_cons, List.append_assoc, readChars_writeChar, ih, List.reverse_cons,
      List.append_assoc, List.singleton_append]

theorem readString_write (s : String) (rest : List Char) :
    readString (s.toList.flatMap writeChar ++ '"' :: rest) = .ok (s, rest) := by
  rw [readString, readChars_flatMap, readChars, if_pos rfl]
  simp

theorem readText_writeString {ws : List Char} (h : Space ws) (s : String) (rest : List Char) :
    readText (ws ++ writeString s ++ rest) = .ok (s, rest) := by
  have htext : ws ++ writeString s ++ rest =
      ws ++ '"' :: (s.toList.flatMap writeChar ++ '"' :: rest) := by simp [writeString]
  rw [htext, readText, h.skipSpace_append_cons (by decide)]
  exact readString_write s rest

/-! ### Numbers -/

theorem isDigit_eq (c : Char) : isDigit c = c.isDigit := by
  simp [isDigit, Char.isDigit, Char.le_def]

theorem value_eq_ofDigitChars (cs : List Char) : value cs = Nat.ofDigitChars 10 cs 0 := by
  rw [Nat.ofDigitChars_eq_foldl]
  rfl

/-- The characters that a number can go on with. -/
def goesOn (c : Char) : Bool := isDigit c || c = '.' || c = 'e' || c = 'E'

/-- The text does not go on with a number in front of it. -/
def Ended (rest : List Char) : Prop := rest.head?.any goesOn = false

theorem ended_cons {c : Char} {rest : List Char} : Ended (c :: rest) ↔ goesOn c = false := Iff.rfl

theorem isSpace_goesOn {c : Char} (h : isSpace c = true) : goesOn c = false := by
  simp only [isSpace, Bool.or_eq_true, decide_eq_true_eq] at h
  obtain ((rfl | rfl) | rfl) | rfl := h <;> decide

/-- Space, or a character that ends a number, behind any space. -/
theorem Space.ended_append {ws : List Char} (h : Space ws) {c : Char} (hc : goesOn c = false)
    (rest : List Char) : Ended (ws ++ c :: rest) := by
  cases ws with
  | nil => exact hc
  | cons d ws => exact isSpace_goesOn (h d List.mem_cons_self)

theorem Ended.readTail {rest : List Char} (h : Ended rest) (atEnd : Flaw) (n : Number) :
    readTail atEnd n rest = .ok (n, rest) := by
  cases rest with
  | nil => rfl
  | cons c rest =>
    rw [ended_cons, goesOn] at h
    unfold Json.readTail
    split <;> simp_all

/-- What is printed of a number other than zero has no zero in front. -/
theorem head?_toDigits_ne {n : Nat} (hn : n ≠ 0) : (Nat.toDigits 10 n).head? ≠ some '0' := by
  induction n using Nat.strongRecOn with
  | ind n ih =>
    by_cases h : n < 10
    · rw [Nat.toDigits_of_lt_base h, List.head?_singleton]
      have hdigit : ∀ m < 10, m ≠ 0 → some (Nat.digitChar m) ≠ some '0' := by decide
      exact hdigit n h hn
    · rw [Nat.toDigits_of_base_le (by decide) (by omega), List.head?_append]
      have hne : Nat.toDigits 10 (n / 10) ≠ [] := Nat.toDigits_ne_nil
      obtain ⟨c, ds, hds⟩ := List.exists_cons_of_ne_nil hne
      simpa [hds] using ih (n / 10) (by omega) (by omega)

theorem writeNatural_eq (n : UInt64) : writeNatural n = Nat.toDigits 10 n.toNat := by
  rw [writeNatural, Nat.toString_eq_ofList_toDigits, String.toList_ofList]

theorem isDigit_of_mem_writeNatural {n : UInt64} {c : Char} (h : c ∈ writeNatural n) :
    isDigit c = true := by
  rw [isDigit_eq]
  exact (Text.digits_toString n.toNat).isDigit c h

/-- There is a first digit. -/
theorem exists_writeNatural_eq_cons (n : UInt64) :
    ∃ c ds, writeNatural n = c :: ds ∧ isDigit c = true := by
  obtain ⟨c, ds, hds⟩ := List.exists_cons_of_ne_nil (Text.digits_toString n.toNat).ne_nil
  have hwrite : writeNatural n = c :: ds := hds
  have hmem : c ∈ writeNatural n := by simp [hwrite]
  exact ⟨c, ds, hwrite, isDigit_of_mem_writeNatural hmem⟩

theorem Ended.any_isDigit {rest : List Char} (h : Ended rest) :
    rest.head?.any isDigit = false := by
  cases rest with
  | nil => rfl
  | cons c rest =>
    rw [ended_cons, goesOn] at h
    simp_all

theorem Ended.takeWhile_dropWhile {rest : List Char} (h : Ended rest) :
    rest.takeWhile isDigit = [] ∧ rest.dropWhile isDigit = rest := by
  cases rest with
  | nil => exact ⟨rfl, rfl⟩
  | cons c rest =>
    have hc : isDigit c = false := h.any_isDigit
    simp [hc]

/-- The digits end where the number does. -/
theorem readNumber_writeNatural (atEnd : Flaw) (n : UInt64) {rest : List Char} (h : Ended rest) :
    readNumber atEnd false (writeNatural n ++ rest) =
      .ok ({ negative := false, whole := writeNatural n }, rest) := by
  by_cases hn : n.toNat = 0
  · have hzero : writeNatural n = ['0'] := by
      rw [writeNatural_eq, hn]
      rfl
    rw [hzero, List.singleton_append, readNumber, h.any_isDigit]
    exact h.readTail atEnd _
  · have hdigits : ∀ c ∈ writeNatural n, isDigit c := fun _ => isDigit_of_mem_writeNatural
    obtain ⟨c, ds, hwrite, hdigit⟩ := exists_writeNatural_eq_cons n
    have hc : c ≠ '0' := by
      have := head?_toDigits_ne hn
      rw [← writeNatural_eq, hwrite] at this
      simpa using this
    have htake : (writeNatural n ++ rest).takeWhile isDigit = writeNatural n := by
      rw [List.takeWhile_append_of_pos hdigits, h.takeWhile_dropWhile.1, List.append_nil]
    have hdrop : (writeNatural n ++ rest).dropWhile isDigit = rest := by
      rw [List.dropWhile_append_of_pos hdigits, h.takeWhile_dropWhile.2]
    rw [hwrite, List.cons_append] at htake hdrop ⊢
    unfold readNumber
    split
    case h_1 hnil => simp at hnil
    case h_2 hcons => simp_all
    case h_3 c' _ _ hcons =>
      cases hcons
      rw [if_pos hdigit, htake, hdrop]
      exact h.readTail atEnd _

theorem natural?_writeNatural (n : UInt64) :
    Number.natural? { negative := false, whole := writeNatural n } = some n := by
  have hvalue : value (writeNatural n) = n.toNat := by
    rw [value_eq_ofDigitChars]
    exact (Text.digits_toString n.toNat).value
  simp [Number.natural?, hvalue, UInt64.toNat_lt_size]

theorem readFitting_writeNatural (n : UInt64) {rest : List Char} (h : Ended rest) :
    readFitting false (writeNatural n ++ rest) =
      .ok ({ negative := false, whole := writeNatural n }, rest) := by
  rw [readFitting, readNumber_writeNatural _ n h]
  simp [natural?_writeNatural]

/-- A digit is neither space nor a sign. -/
theorem isDigit_ne {c : Char} (h : isDigit c = true) : isSpace c = false ∧ c ≠ '-' := by
  have hspace : isSpace c = false := by
    by_contra hspace
    simp only [isSpace, Bool.not_eq_false, Bool.or_eq_true, decide_eq_true_eq] at hspace
    obtain ((rfl | rfl) | rfl) | rfl := hspace <;> simp [isDigit] at h
  refine ⟨hspace, ?_⟩
  rintro rfl
  simp [isDigit] at h

theorem readNatural_writeNatural {ws : List Char} (hws : Space ws) (n : UInt64)
    {rest : List Char} (h : Ended rest) :
    readNatural (ws ++ writeNatural n ++ rest) = .ok (n, rest) := by
  obtain ⟨c, ds, hwrite, hdigit⟩ := exists_writeNatural_eq_cons n
  obtain ⟨hspace, hsign⟩ := isDigit_ne hdigit
  have hread := readFitting_writeNatural n h
  have hvalue := natural?_writeNatural n
  rw [hwrite] at hread hvalue
  rw [List.append_assoc, readNatural, hwrite, List.cons_append, hws.skipSpace_append_cons hspace]
  rw [List.cons_append] at hread
  split
  case h_1 hnil => simp at hnil
  case h_2 hcons => simp_all
  case h_3 hcons =>
    cases hcons
    simp [hdigit, hread, hvalue]

end Tunnel.Json
