import Tunnel.Bytes

/-!
# Base64

The standard alphabet with padding: three bytes are four characters.

## Main definitions

* `base64` — the encoded text.
-/

namespace Tunnel.Text

def base64Alphabet : List Char :=
  "ABCDEFGHIJKLMNOPQRSTUVWXYZabcdefghijklmnopqrstuvwxyz0123456789+/".toList

/-- The character for six bits. -/
def base64Char (n : Nat) : Char := base64Alphabet.getD (n % 64) '='

/-- The characters for the bytes, in groups of three bytes. -/
def base64Chars : Bytes → List Char
  | a :: b :: c :: rest =>
    let n := (a.toNat * 256 + b.toNat) * 256 + c.toNat
    base64Char (n / 262144) :: base64Char (n / 4096) :: base64Char (n / 64) :: base64Char n
      :: base64Chars rest
  | [a, b] =>
    let n := (a.toNat * 256 + b.toNat) * 256
    [base64Char (n / 262144), base64Char (n / 4096), base64Char (n / 64), '=']
  | [a] =>
    let n := a.toNat * 65536
    [base64Char (n / 262144), base64Char (n / 4096), '=', '=']
  | [] => []

def base64 (bytes : Bytes) : String := String.ofList (base64Chars bytes)

end Tunnel.Text
