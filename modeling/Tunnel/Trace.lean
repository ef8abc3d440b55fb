import Tunnel.Client.Channel
import Tunnel.Destination

/-!
# Traces

What a run shows to an observer, in order: log lines, dials, bytes that remote streams took,
chunks on their way in either direction, and calls of the client's send and close.

## Main definitions

* `Log.Line` — a log line with its level.
* `Happening` — one observable thing.
-/

namespace Tunnel

namespace Log

inductive Level
  | error | warn | info | debug
  deriving DecidableEq, Repr, Inhabited

structure Line where
  level : Level
  text : String
  deriving DecidableEq, Repr, Inhabited

end Log

/-- One observable thing. Connections are numbered in the order of their opening, dials in the
order in which they were made. -/
inductive Happening
  | logged (line : Log.Line)
  | opened (connection : Nat) (destination : Destination)
  | dialed (connection dial : Nat) (destination : Destination)
  | accepted (connection dial : Nat) (bytes : Bytes)
  | received (connection dial : Nat) (bytes : Bytes)
  /-- A read met the end of the stream. -/
  | exhausted (connection dial : Nat)
  /-- A write to the stream failed. -/
  | writeFailed (connection dial : Nat)
  | released (connection dial : Nat)
  | written (connection : Nat) (chunk : Bytes)
  /-- The connection did not take a chunk, since its writable side is gone. -/
  | refused (connection : Nat) (chunk : Bytes)
  | handedOut (connection : Nat) (chunk : Bytes)
  | taken (chunk : Bytes)
  /-- The client's send was called at this readiness. -/
  | sendCalled (readiness : ReadyState) (chunk : Bytes)
  | sent (chunk : Bytes)
  /-- A request to close the client acts on a client of this readiness. -/
  | closeSought (readiness : ReadyState)
  | closeCalled
  deriving DecidableEq, Repr, Inhabited

/-- A log line about the session or connection to `d`. -/
def Happening.log (level : Log.Level) (d : Destination) (text : String) : Happening :=
  .logged { level, text := s!"[{d}] {text}" }

end Tunnel
