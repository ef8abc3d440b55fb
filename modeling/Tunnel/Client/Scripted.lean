import Tunnel.Client.Channel

/-!
# Scripted clients

A client channel that behaves as laid down in advance: which readiness it starts from, what
closing does to it, and from which message on sending fails or crashes.
-/

namespace Tunnel

structure ScriptedClient where
  /-- The readiness code; codes without a meaning count as closed. -/
  code : Nat := 1
  /-- The code after a successful close, or `none` if closing leaves the code alone. -/
  codeAfterClose : Option Nat := some 3
  /-- The error of every close, if closing fails. -/
  closeError : Option ChannelError := none
  /-- The number of messages after which sending fails, and the error. -/
  sendError : Option (Nat × ChannelError) := none
  /-- The number of messages after which sending crashes. -/
  crashAfter : Option Nat := none
  /-- A message number and the code from that message on. -/
  codeAfterSends : Option (Nat × Nat) := none
  /-- Messages sent so far. -/
  sent : Nat := 0
  deriving DecidableEq, Repr, Inhabited

namespace ScriptedClient

/-- The client after one more message. -/
def count (c : ScriptedClient) : ScriptedClient :=
  let n := c.sent + 1
  match c.codeAfterSends with
  | some (m, code) => if m = n then { c with sent := n, code } else { c with sent := n }
  | none => { c with sent := n }

/-- A message counts only if it is neither due to crash nor due to fail. -/
def send (c : ScriptedClient) (_data : Bytes) : SendResult × ScriptedClient :=
  if c.crashAfter.any (· ≤ c.sent) then (.crashed "scripted send panic", c)
  else match c.sendError with
    | some (n, e) => if n ≤ c.sent then (.failed e, c) else (.sent, c.count)
    | none => (.sent, c.count)

def close (c : ScriptedClient) : Except ChannelError Unit × ScriptedClient :=
  match c.closeError with
  | some e => (.error e, c)
  | none => (.ok (), { c with code := c.codeAfterClose.getD c.code })

instance : ClientChannel ScriptedClient where
  readyState c := .ofCode c.code
  send := send
  close := close

end ScriptedClient

end Tunnel
