import Tunnel.Bytes
import Tunnel.Config.Basic
import Tunnel.Text.Blank
import Tunnel.Text.Numeral
import Tunnel.Text.Split
import Tunnel.Text.Utf8

/-!
# Overrides from the environment

Variables of the environment override single settings. The fallback hosts are a list with
commas, of which blanks around the pieces and blank pieces are dropped, and a replay limit that
is no 64-bit numeral is ignored.

## Main definitions

* `Environment` — the variables that are set to text.
* `Config.override` — the settings with their overrides.
-/

namespace Tunnel

/-- The values of the variables that are set. -/
abbrev Environment := String → Option String

/-- The environment with these variables; values that are no text count as unset. -/
def Environment.ofBytes (vars : List (String × Bytes)) : Environment := fun name =>
  (vars.lookup name).bind Utf8.decode?

namespace Config

/-- The hosts that a list with commas names. -/
def hostsOfList (text : String) : List String :=
  (((Text.pieces ',' text.toList).map Text.trim).filter (· ≠ [])).map String.ofList

/-- The limit that a text names, if it is a numeral of at most 64 bits. -/
def limitOfText? (text : String) : Option UInt64 :=
  (Text.readNumeral? (UInt64.size - 1) text.toList).map UInt64.ofNat

/-- The settings with the overrides of an environment. -/
def override (c : Config) (env : Environment) : Config where
  listenAddr := (env "BEPASS_LISTEN").getD c.listenAddr
  connectPath := (env "BEPASS_CONNECT_PATH").getD c.connectPath
  fallbackEgress := ((env "BEPASS_FALLBACK_EGRESS").map hostsOfList).getD c.fallbackEgress
  eventQueueCapacity := c.eventQueueCapacity
  remoteQueueCapacity := c.remoteQueueCapacity
  replayLimit := ((env "BEPASS_REPLAY_LIMIT").bind limitOfText?).getD c.replayLimit

end Config

end Tunnel
