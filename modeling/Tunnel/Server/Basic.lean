import Tunnel.Config.Basic
import Tunnel.Session.Basic

/-!
# Servers

The settings that a server and its sessions take from a configuration.

## Main definitions

* `Server`, `Server.ofConfig` — the settings of a server.
* `Engine.ofConfig` — the settings of its sessions.
* `Server.announcement` — what is logged at the start.
-/

namespace Tunnel

/-- The settings of a server. -/
structure Server where
  connectPath : String := "/connect"
  /-- Capacity of the clients' event queues. -/
  eventCapacity : Nat := 64
  deriving DecidableEq, Repr, Inhabited

/-- The sessions of a server with this configuration and this fallback host. -/
def Engine.ofConfig (c : Config) (fallbackHost : String) : Engine :=
  { fallbackHost, capacity := c.remoteQueueCapacity.toNat, replayLimit := c.replayLimit.toNat }

namespace Server

/-- The server with this configuration. -/
def ofConfig (c : Config) : Server :=
  { connectPath := c.connectPath, eventCapacity := c.eventQueueCapacity.toNat }

/-- A log line of a server. -/
def line (level : Log.Level) (text : String) : Happening :=
  .logged { level, text := "[Server] " ++ text }

/-- What is logged once the server listens on `address`. -/
def announcement (s : Server) (engine : Engine) (address : String) : Happening :=
  line .info (s!"listening on {address} (connect path {s.connectPath}, "
    ++ s!"fallback egress {engine.fallbackHost})")

end Server

end Tunnel
