import Tunnel.Client.Channel
import Tunnel.IoError

/-!
# Errors of a session

What ends one direction of a session.
-/

namespace Tunnel

inductive SessionError
  | remote (e : IoError)
  | clientNotOpen
  | client (e : ChannelError)
  | noActiveConnection
  | pumpAborted (reason : String)
  deriving DecidableEq, Repr, Inhabited

namespace SessionError

def message : SessionError → String
  | .remote e => s!"Remote error: {e}"
  | .clientNotOpen => "Client channel is not open"
  | .client e => s!"Client error: {e}"
  | .noActiveConnection => "No active remote connection"
  | .pumpAborted reason => s!"Pump aborted: {reason}"

instance : ToString SessionError := ⟨message⟩

/-- The text of the error underneath, if there is one. -/
def source? : SessionError → Option String
  | .remote e => some e.message
  | .client e => some e.message
  | _ => none

end SessionError

end Tunnel
