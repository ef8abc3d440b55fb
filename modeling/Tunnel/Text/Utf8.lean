import Tunnel.Bytes

/-!
# UTF-8

A machine that reads UTF-8 one byte at a time and refuses a byte as soon as no text can begin
with the bytes up to it, and the text that a sequence of bytes spells.

## Main definitions

* `Utf8.State`, `Utf8.step?`, `Utf8.run?` — the machine.
* `Utf8.decode?` — the text of the bytes.
-/

namespace Tunnel.Utf8

/-- How many continuation bytes are owed, and the bounds of the next one. -/
structure State where
  owed : Nat := 0
  low : UInt8 := 0x80
  high : UInt8 := 0xBF
  deriving DecidableEq, Repr, Inhabited

/-- Between two characters. -/
def State.start : State := {}

/-- What a first byte of a character leads to. -/
def lead? (b : UInt8) : Option State :=
  if b ≤ 0x7F then some .start
  else if b < 0xC2 then none
  else if b ≤ 0xDF then some { owed := 1 }
  else if b = 0xE0 then some { owed := 2, low := 0xA0 }
  else if b = 0xED then some { owed := 2, high := 0x9F }
  else if b ≤ 0xEF then some { owed := 2 }
  else if b = 0xF0 then some { owed := 3, low := 0x90 }
  else if b ≤ 0xF3 then some { owed := 3 }
  else if b = 0xF4 then some { owed := 3, high := 0x8F }
  else none

def step? (s : State) (b : UInt8) : Option State :=
  match s.owed with
  | 0 => lead? b
  | n + 1 => if s.low ≤ b ∧ b ≤ s.high then some { owed := n } else none

/-- The state after the bytes, or `none` if one of them was refused. -/
def run? (s : State) (bytes : Bytes) : Option State := bytes.foldlM step? s

/-- The text that the bytes spell. -/
def decode? (bytes : Bytes) : Option String := String.fromUTF8? ⟨bytes.toArray⟩

end Tunnel.Utf8
