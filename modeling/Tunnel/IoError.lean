/-!
# Transport errors

Errors of dialing, reading and writing a remote stream: a kind, and a text of their own where
the transport gives one.
-/

namespace Tunnel

namespace IoError

inductive Kind
  | connectionRefused | connectionReset | connectionAborted | notConnected | addrNotAvailable
  | hostUnreachable | networkUnreachable | brokenPipe | wouldBlock | invalidInput | invalidData
  | timedOut | writeZero | interrupted | unexpectedEof | permissionDenied | other
  deriving DecidableEq, Repr, Inhabited

/-- What an error of this kind prints when it has no text of its own. -/
def Kind.text : Kind → String
  | .connectionRefused => "connection refused"
  | .connectionReset => "connection reset"
  | .connectionAborted => "connection aborted"
  | .notConnected => "not connected"
  | .addrNotAvailable => "address not available"
  | .hostUnreachable => "host unreachable"
  | .networkUnreachable => "network unreachable"
  | .brokenPipe => "broken pipe"
  | .wouldBlock => "operation would block"
  | .invalidInput => "invalid input parameter"
  | .invalidData => "invalid data"
  | .timedOut => "timed out"
  | .writeZero => "write zero"
  | .interrupted => "operation interrupted"
  | .unexpectedEof => "unexpected end of file"
  | .permissionDenied => "permission denied"
  | .other => "other error"

end IoError

structure IoError where
  kind : IoError.Kind
  detail : Option String := none
  deriving DecidableEq, Repr, Inhabited

namespace IoError

/-- The text of an error: its own, or else its kind's. -/
def message (e : IoError) : String := e.detail.getD e.kind.text

instance : ToString IoError := ⟨message⟩

/-- A write of `n` bytes met a writable side that is gone. -/
def writableClosed (n : Nat) : IoError :=
  { kind := .brokenPipe, detail := some s!"remote writable side closed ({n} bytes dropped)" }

/-- The stream took no byte of a nonempty chunk. -/
def writeZero : IoError := { kind := .writeZero, detail := some "write zero" }

end IoError

end Tunnel
