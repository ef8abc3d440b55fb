import Tunnel.Bytes
import Tunnel.Text.Quoted
import Tunnel.Text.Utf8

/-!
# WebSocket frames

The header of a frame on the wire, the payload under its mask, and the body of a close frame.

## Main definitions

* `Opcode` — the kinds of frames.
* `Header.read` — the header at the front of a buffer.
* `CloseBody` — why a side closes.
-/

namespace Tunnel.WebSocket

inductive Opcode
  | continuation | text | binary | close | ping | pong
  deriving DecidableEq, Repr, Inhabited

namespace Opcode

def code : Opcode → Nat
  | continuation => 0
  | text => 1
  | binary => 2
  | close => 8
  | ping => 9
  | pong => 10

def all : List Opcode := [continuation, text, binary, close, ping, pong]

/-- The kind with a given code; other codes have no meaning. -/
def ofCode? (n : Nat) : Option Opcode := all.find? (·.code = n)

/-- Whether frames of this kind may come between the fragments of a message. -/
def isControl : Opcode → Bool
  | close | ping | pong => true
  | continuation | text | binary => false

@[simp] theorem ofCode?_code (o : Opcode) : ofCode? o.code = some o := by cases o <;> rfl

end Opcode

/-- A whole frame that a server sends: neither masked nor fragmented. -/
structure Frame where
  opcode : Opcode
  payload : Bytes
  deriving DecidableEq, Repr, Inhabited

structure Header where
  final : Bool
  /-- Whether one of the three reserved bits is set. -/
  reserved : Bool
  opcode : Opcode
  /-- The four bytes of the mask, if the payload is masked. -/
  mask : Option Bytes
  /-- Length of the payload. -/
  length : Nat
  deriving DecidableEq, Repr, Inhabited

/-- What stands at the front of a buffer. -/
inductive HeaderAnswer
  | incomplete
  | badOpcode (n : Nat)
  | header (h : Header) (rest : Bytes)

/-- The number that bytes spell, most significant first. -/
def bigEndian (bytes : Bytes) : Nat := bytes.foldl (fun n b => 256 * n + b.toNat) 0

/-- The first `n` bytes and the rest, if there are that many. -/
def split? (n : Nat) (bytes : Bytes) : Option (Bytes × Bytes) :=
  let front := bytes.take n
  if front.length = n then some (front, bytes.drop n) else none

/-- The length that the second byte of a header announces, and the bytes after it. -/
def readLength? (second : Nat) (rest : Bytes) : Option (Nat × Bytes) :=
  match second % 128 with
  | 126 => (split? 2 rest).map fun (front, rest) => (bigEndian front, rest)
  | 127 => (split? 8 rest).map fun (front, rest) => (bigEndian front, rest)
  | n => some (n, rest)

/-- The mask, if the second byte of a header announces one, and the bytes after it. -/
def readMask? (second : Nat) (rest : Bytes) : Option (Option Bytes × Bytes) :=
  if second < 128 then some (none, rest)
  else (split? 4 rest).map fun (front, rest) => (some front, rest)

/-- The header at the front of a buffer. A kind without meaning is noticed once the whole header
is there. -/
def Header.read : Bytes → HeaderAnswer
  | first :: second :: rest =>
    match readLength? second.toNat rest with
    | none => .incomplete
    | some (length, rest) =>
      match readMask? second.toNat rest with
      | none => .incomplete
      | some (mask, rest) =>
        let n := first.toNat
        match Opcode.ofCode? (n % 16) with
        | none => .badOpcode (n % 16)
        | some opcode =>
          .header { final := 128 ≤ n, reserved := n / 16 % 8 ≠ 0, opcode, mask, length } rest
  | _ => .incomplete

/-- The payload under a mask, which repeats. -/
def applyMask (mask : Bytes) (payload : Bytes) : Bytes :=
  match mask with
  | [a, b, c, d] => go a b c d payload
  | _ => payload
where
  go (a b c d : UInt8) : Bytes → Bytes
    | w :: x :: y :: z :: rest =>
      (w ^^^ a) :: (x ^^^ b) :: (y ^^^ c) :: (z ^^^ d) :: go a b c d rest
    | [x, y, z] => [x ^^^ a, y ^^^ b, z ^^^ c]
    | [x, y] => [x ^^^ a, y ^^^ b]
    | [x] => [x ^^^ a]
    | [] => []

/-! ### Close frames -/

/-- Why a side closes. -/
structure CloseBody where
  code : Nat
  reason : String
  deriving DecidableEq, Repr, Inhabited

namespace CloseBody

/-- Whether an endpoint may send this code. -/
def allowed (b : CloseBody) : Bool :=
  (1000 ≤ b.code && b.code ≤ 1003) || (1007 ≤ b.code && b.code ≤ 1013)
    || (3000 ≤ b.code && b.code ≤ 4999)

/-- What is sent back when a code is not allowed. -/
def violation : CloseBody := { code := 1002, reason := "Protocol violation" }

/-- The name of a code. -/
def codeName (n : Nat) : String :=
  match n with
  | 1000 => "Normal"
  | 1001 => "Away"
  | 1002 => "Protocol"
  | 1003 => "Unsupported"
  | 1005 => "Status"
  | 1006 => "Abnormal"
  | 1007 => "Invalid"
  | 1008 => "Policy"
  | 1009 => "Size"
  | 1010 => "Extension"
  | 1011 => "Error"
  | 1012 => "Restart"
  | 1013 => "Again"
  | 1015 => "Tls"
  | n =>
    if 1016 ≤ n ∧ n ≤ 2999 then s!"Reserved({n})"
    else if 3000 ≤ n ∧ n ≤ 3999 then s!"Iana({n})"
    else if 4000 ≤ n ∧ n ≤ 4999 then s!"Library({n})"
    else s!"Bad({n})"

/-- A close body in words, or that there is none. -/
def describe : Option CloseBody → String
  | none => "None"
  | some b =>
    s!"Some(CloseFrame \x7b code: {codeName b.code}, reason: {Text.quote b.reason} \x7d)"

/-- The body on the wire. -/
def encode : Option CloseBody → Bytes
  | none => []
  | some b =>
    UInt8.ofNat (b.code / 256) :: UInt8.ofNat (b.code % 256) :: b.reason.toUTF8.toList

end CloseBody

end Tunnel.WebSocket
