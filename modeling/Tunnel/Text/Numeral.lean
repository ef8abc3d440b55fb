/-!
# Decimal numerals

Reading an unsigned decimal numeral with an optional leading plus sign and an upper bound.

## Main definitions

* `digit?` — the value of one ASCII digit.
* `readDigits?` — the value of a run of digits.
* `readNumeral?` — a bounded numeral; no sign but `+`, no blanks, at least one digit.
-/

namespace Tunnel.Text

/-- The value of an ASCII decimal digit. -/
def digit? (c : Char) : Option Nat :=
  if '0' ≤ c ∧ c ≤ '9' then some (c.toNat - '0'.toNat) else none

/-- The value of `acc` followed by the digits of the list; `none` if one is no digit. -/
def readDigits? (acc : Nat) : List Char → Option Nat
  | [] => some acc
  | c :: rest => (digit? c).bind fun d => readDigits? (10 * acc + d) rest

/-- A nonempty run of digits. -/
def readUnsigned? : List Char → Option Nat
  | [] => none
  | cs => readDigits? 0 cs

/-- A decimal numeral of value at most `bound`, with an optional leading plus sign. -/
def readNumeral? (bound : Nat) (cs : List Char) : Option Nat :=
  let digits := match cs with
    | '+' :: rest => rest
    | cs => cs
  (readUnsigned? digits).filter (· ≤ bound)

@[simp] theorem readUnsigned?_nil : readUnsigned? [] = none := rfl

@[simp] theorem readUnsigned?_cons (c : Char) (cs : List Char) :
    readUnsigned? (c :: cs) = readDigits? 0 (c :: cs) := rfl

end Tunnel.Text
