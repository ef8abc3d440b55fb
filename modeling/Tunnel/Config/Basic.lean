/-!
# Configurations

The settings of a server, their defaults, and what makes them usable.

## Main definitions

* `Config` — the settings, with their defaults.
* `Config.validate` — refuses settings that cannot be served.
-/

namespace Tunnel

structure Config where
  /-- Address to listen on. -/
  listenAddr : String := "127.0.0.1:8787"
  /-- Path of the requests that become sessions. -/
  connectPath : String := "/connect"
  /-- Fallback hosts, of which one is picked at the start. -/
  fallbackEgress : List String := ["cdn-b100.xn--b6gac.eu.org"]
  /-- Capacity of a client's event queue. -/
  eventQueueCapacity : UInt64 := 64
  /-- Capacity of the queues of a remote connection, in chunks. -/
  remoteQueueCapacity : UInt64 := 64
  /-- How many client bytes are kept for replay. -/
  replayLimit : UInt64 := 65536
  deriving DecidableEq, Repr, Inhabited

/-- Why settings are refused. -/
inductive Config.Problem
  | noFallback
  | relativePath (path : String)
  | emptyQueue
  deriving DecidableEq, Repr, Inhabited

namespace Config

def Problem.message : Problem → String
  | .noFallback => "fallback_egress must list at least one address"
  | .relativePath path => "connect_path must start with '/': " ++ path
  | .emptyQueue => "queue capacities must be positive"

/-- The settings if they are usable, or the first problem with them. -/
def validate (c : Config) : Except Problem Unit :=
  if c.fallbackEgress.isEmpty then .error .noFallback
  else if c.connectPath.toList.head? ≠ some '/' then .error (.relativePath c.connectPath)
  else if c.eventQueueCapacity = 0 ∨ c.remoteQueueCapacity = 0 then .error .emptyQueue
  else .ok ()

end Config

end Tunnel
