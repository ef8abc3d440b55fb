import Tunnel.Bytes

/-!
# Client channels

The tunnel does not own the client's connection. It sees a message-oriented duplex channel: a
readiness, two operations that never wait, and a queue of the events that the channel fires.

## Main definitions

* `ReadyState`, `ChannelError`, `ChannelEvent` — what a channel shows, fails with and fires.
* `ClientChannel` — a state with the channel's operations on it.
-/

namespace Tunnel

/-- Readiness of a client channel. -/
inductive ReadyState
  | connecting | opened | closing | closed
  deriving DecidableEq, Repr, Inhabited

namespace ReadyState

/-- The readiness with a given code; unknown codes are terminal. -/
def ofCode : Nat → ReadyState
  | 0 => .connecting
  | 1 => .opened
  | 2 => .closing
  | _ => .closed

def code : ReadyState → Nat
  | .connecting => 0
  | .opened => 1
  | .closing => 2
  | .closed => 3

def name : ReadyState → String
  | .connecting => "Connecting"
  | .opened => "Open"
  | .closing => "Closing"
  | .closed => "Closed"

@[simp] theorem ofCode_code (s : ReadyState) : ofCode s.code = s := by cases s <;> rfl

end ReadyState

/-- Errors of the channel's operations. -/
inductive ChannelError
  | sendFailed (reason : String)
  | closeFailed (reason : String)
  | transport (reason : String)
  | closed
  deriving DecidableEq, Repr, Inhabited

def ChannelError.message : ChannelError → String
  | .sendFailed reason => s!"Send failed: {reason}"
  | .closeFailed reason => s!"Close failed: {reason}"
  | .transport reason => s!"Transport error: {reason}"
  | .closed => "Channel closed"

instance : ToString ChannelError := ⟨ChannelError.message⟩

/-- What a channel fires: an inbound message, the peer's close, or a failure. -/
inductive ChannelEvent
  | message (data : Bytes)
  | close
  | error (e : ChannelError)
  deriving DecidableEq, Repr, Inhabited

/-- How an attempt to send ends. A crash takes the task that tried with it. -/
inductive SendResult
  | sent
  | failed (e : ChannelError)
  | crashed (reason : String)
  deriving DecidableEq, Repr, Inhabited

/-- A client-facing endpoint with states in `σ`. Neither operation waits: `send` queues one
message and `close` starts the closing handshake. -/
class ClientChannel (σ : Type) where
  readyState : σ → ReadyState
  send : σ → Bytes → SendResult × σ
  close : σ → Except ChannelError Unit × σ

end Tunnel
