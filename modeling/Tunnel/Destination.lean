/-!
# Destinations

The remote `host:port` that a session tunnels to. Values are taken as given: an empty host or
port zero is refused by the transport when it is dialed, not here.
-/

namespace Tunnel

structure Destination where
  host : String
  port : UInt16
  deriving DecidableEq, Repr, Inhabited

namespace Destination

/-- The same port on another host. -/
def withHost (d : Destination) (host : String) : Destination := { d with host }

/-- The host, a colon and the port. -/
def render (d : Destination) : String := d.host ++ ":" ++ toString d.port.toNat

instance : ToString Destination := ⟨render⟩

@[simp] theorem withHost_host (d : Destination) (host : String) :
    (d.withHost host).host = host := rfl

@[simp] theorem withHost_port (d : Destination) (host : String) :
    (d.withHost host).port = d.port := rfl

end Destination

end Tunnel
