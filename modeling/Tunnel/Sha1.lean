import Tunnel.Bytes

/-!
# SHA-1

The message digest that the opening handshake of a WebSocket proves its origin with.

## Main definitions

* `Sha1.digest` — the twenty bytes of the digest.
-/

namespace Tunnel.Sha1

/-- The five words of a digest in progress. -/
structure State where
  a : UInt32 := 0x67452301
  b : UInt32 := 0xEFCDAB89
  c : UInt32 := 0x98BADCFE
  d : UInt32 := 0x10325476
  e : UInt32 := 0xC3D2E1F0

/-- Rotation to the left by `n` bits, for `n` between 1 and 31. -/
def rotate (n : UInt32) (w : UInt32) : UInt32 := (w <<< n) ||| (w >>> (32 - n))

/-- The last `size` bytes of a number, most significant first. -/
def bigEndian (size n : Nat) : Bytes :=
  (List.range size).map fun i => UInt8.ofNat (n >>> (8 * (size - 1 - i)))

/-- The message with its padding and its length in bits, a multiple of 64 bytes. -/
def pad (message : Bytes) : Bytes :=
  let n := message.length
  message ++ 0x80 :: List.replicate ((119 - n % 64) % 64) 0 ++ bigEndian 8 (8 * n)

/-- The words that four bytes each spell. -/
def words : Bytes → List UInt32
  | a :: b :: c :: d :: rest =>
    UInt32.ofNat (((a.toNat * 256 + b.toNat) * 256 + c.toNat) * 256 + d.toNat) :: words rest
  | _ => []

/-- Extends the last words of a schedule, last first, by `n` words. -/
def extend : Nat → List UInt32 → List UInt32
  | 0, ws => ws
  | n + 1, ws =>
    let entry (i : Nat) : UInt32 := ws.getD i 0
    extend n (rotate 1 (entry 2 ^^^ entry 7 ^^^ entry 13 ^^^ entry 15) :: ws)

/-- The function and the constant of round number `t`. -/
def mix (t : Nat) (b c d : UInt32) : UInt32 × UInt32 :=
  if t < 20 then ((b &&& c) ||| (~~~b &&& d), 0x5A827999)
  else if t < 40 then (b ^^^ c ^^^ d, 0x6ED9EBA1)
  else if t < 60 then ((b &&& c) ||| (b &&& d) ||| (c &&& d), 0x8F1BBCDC)
  else (b ^^^ c ^^^ d, 0xCA62C1D6)

/-- Round number `t` with its word of the schedule. -/
def round (s : State) (t : Nat) (w : UInt32) : State :=
  let (f, k) := mix t s.b s.c s.d
  { a := rotate 5 s.a + f + s.e + k + w, b := s.a, c := rotate 30 s.b, d := s.c, e := s.d }

/-- The state after one block of sixteen words. -/
def block (s : State) (ws : List UInt32) : State :=
  let schedule := (extend 64 ws.reverse).reverse
  let r := (schedule.zipIdx).foldl (fun r (w, t) => round r t w) s
  { a := s.a + r.a, b := s.b + r.b, c := s.c + r.c, d := s.d + r.d, e := s.e + r.e }

/-- The state after at most `n` blocks. -/
def blocks : Nat → State → List UInt32 → State
  | 0, s, _ => s
  | n + 1, s, ws => blocks n (block s (ws.take 16)) (ws.drop 16)

def digest (message : Bytes) : Bytes :=
  let ws := words (pad message)
  let s := blocks (ws.length / 16) {} ws
  [s.a, s.b, s.c, s.d, s.e].flatMap fun w => bigEndian 4 w.toNat

end Tunnel.Sha1
