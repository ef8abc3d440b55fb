/-!
# Bytes

What travels through a tunnel is a finite sequence of bytes, cut into chunks on the way.
-/

namespace Tunnel

/-- One chunk of bytes, first byte first. -/
abbrev Bytes := List UInt8

end Tunnel
