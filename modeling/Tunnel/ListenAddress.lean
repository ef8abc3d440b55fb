import Tunnel.Text.Numeral
import Tunnel.Text.Split

/-!
# Listen addresses

The text form `host:port` of the address that a server listens on. The port is a 16-bit numeral
after the last colon.
-/

namespace Tunnel

structure ListenAddress where
  host : String
  port : UInt16
  deriving DecidableEq, Repr, Inhabited

namespace ListenAddress

/-- Why a text is no address. -/
inductive Problem
  | noPort | badPort
  deriving DecidableEq, Repr, Inhabited

def Problem.message : Problem → String
  | .noPort => "invalid socket address"
  | .badPort => "invalid port value"

def ofText (text : String) : Except Problem ListenAddress :=
  match Text.cutLast ':' text.toList with
  | none => .error .noPort
  | some (host, port) =>
    match Text.readNumeral? 65535 port with
    | none => .error .badPort
    | some n => .ok { host := String.ofList host, port := UInt16.ofNat n }

end ListenAddress

end Tunnel
