import Tunnel.Client.Channel
import Tunnel.Text.Quoted
import Tunnel.Trace

/-!
# Closing the client once

Several surfaces can end a session, and each asks to close the client. The coordinator passes
the first request on and lets the others only log.

A request is made of three atomic steps, so that requests of concurrent callers can be
interleaved: it swaps the flag, looks at the readiness, and calls the channel's close.
`Coordinator.close` is one caller that takes its steps without interruption.

## Main definitions

* `safeClose` — closes a channel that is open or closing, and swallows a failure.
* `Coordinator`, `Coordinator.close` — the flag, and the request to close.
* `Caller`, `Caller.step` — a request in progress, and its next atomic step.
-/

namespace Tunnel

variable {σ : Type} [ClientChannel σ]

/-- Whether the readiness allows the channel's close to be called. -/
def ReadyState.closable : ReadyState → Bool
  | .opened | .closing => true
  | .connecting | .closed => false

/-- Calls the channel's close, and logs a failure. Says whether it succeeded. -/
def callClose (client : σ) (d : Destination) : Bool × σ × List Happening :=
  let sought := Happening.closeSought (ClientChannel.readyState client)
  match ClientChannel.close client with
  | (.ok (), client) => (true, client, [sought, .closeCalled])
  | (.error e, client) =>
    (false, client,
      [sought, .closeCalled, .log .error d s!"safe close of client channel failed: {e}"])

/-- Closes the channel if it is open or closing. Says whether the channel's close was called and
succeeded. -/
def safeClose (client : σ) (d : Destination) : Bool × σ × List Happening :=
  if (ClientChannel.readyState client).closable then callClose client d
  else (false, client, [.closeSought (ClientChannel.readyState client)])

/-- The client channel of one session with the flag that its close was requested. -/
structure Coordinator (σ : Type) where
  client : σ
  destination : Destination
  requested : Bool := false

/-- The coordinator in words, without its channel. -/
def Coordinator.describe (k : Coordinator σ) : String :=
  let d := k.destination
  let place := s!"Destination \x7b host: {Text.quote d.host}, port: {d.port.toNat} \x7d"
  s!"ShutdownCoordinator \x7b destination: {place}, requested: {k.requested}, "
    ++ s!"ready_state: {(ClientChannel.readyState k.client).name}, .. \x7d"

/-- A request to close in progress. -/
inductive Caller
  /-- Nothing has been done yet. -/
  | entering
  /-- The flag was clear and this caller set it. -/
  | first
  /-- The channel was seen open or closing. -/
  | committed
  /-- The request has returned. -/
  | returned (closed : Bool)
  deriving DecidableEq, Repr, Inhabited

/-- The next atomic step of a request with the given reason. -/
def Caller.step (reason : String) (k : Coordinator σ) :
    Caller → Option (Caller × Coordinator σ × List Happening)
  | .entering =>
    if k.requested then
      some (.returned false, k,
        [.log .debug k.destination s!"client close already requested, ignoring: {reason}"])
    else some (.first, { k with requested := true }, [])
  | .first =>
    if (ClientChannel.readyState k.client).closable then some (.committed, k, [])
    else some (.returned false, k,
      [.closeSought (ClientChannel.readyState k.client), finished k false])
  | .committed =>
    let (closed, client, happened) := callClose k.client k.destination
    some (.returned closed, { k with client }, happened ++ [finished k closed])
  | .returned _ => none
where
  finished (k : Coordinator σ) (closed : Bool) : Happening :=
    .log .debug k.destination s!"client close requested ({reason}), channel closed now: {closed}"

/-- Takes at most `n` steps of a request. -/
def Caller.run (reason : String) : Nat → Caller → Coordinator σ →
    Caller × Coordinator σ × List Happening
  | 0, c, k => (c, k, [])
  | n + 1, c, k =>
    match Caller.step reason k c with
    | none => (c, k, [])
    | some (c, k, now) =>
      let (c, k, later) := Caller.run reason n c k
      (c, k, now ++ later)

/-- Requests the close of the client. Says whether this request closed the channel; a request is
over after three steps. -/
def Coordinator.close (k : Coordinator σ) (reason : String) :
    Bool × Coordinator σ × List Happening :=
  match Caller.run reason 3 .entering k with
  | (.returned closed, k, happened) => (closed, k, happened)
  | (_, k, happened) => (false, k, happened)

/-- A request after the first only logs. -/
theorem Coordinator.close_of_requested {k : Coordinator σ} (h : k.requested) (reason : String) :
    k.close reason = (false, k,
      [.log .debug k.destination s!"client close already requested, ignoring: {reason}"]) := by
  simp [Coordinator.close, Caller.run, Caller.step, h]

/-- The first request sets the flag and goes through `safeClose`. -/
theorem Coordinator.close_of_not_requested {k : Coordinator σ} (h : k.requested = false)
    (reason : String) :
    k.close reason =
      let (closed, client, happened) := safeClose k.client k.destination
      (closed, { k with client, requested := true },
        happened ++ [Caller.step.finished reason k closed]) := by
  by_cases hc : (ClientChannel.readyState k.client).closable <;>
    simp [Coordinator.close, Caller.run, Caller.step, Caller.step.finished, safeClose, h, hc]

end Tunnel
