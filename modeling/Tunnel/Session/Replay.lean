import Tunnel.Bytes

/-!
# Replay buffers

The client chunks that are kept for a second connection. A buffer keeps all chunks that it was
offered or none: once the limit would be exceeded it gives up for good.

## Main definitions

* `ReplayBuffer.record` — offers a chunk, and says whether it was kept.
* `ReplayBuffer.take` — empties the buffer.
-/

namespace Tunnel

structure ReplayBuffer where
  limit : Nat
  /-- Kept chunks, oldest first. -/
  chunks : List Bytes := []
  /-- Their total length. -/
  size : Nat := 0
  overflowed : Bool := false
  deriving DecidableEq, Repr, Inhabited

namespace ReplayBuffer

def record (b : ReplayBuffer) (chunk : Bytes) : Bool × ReplayBuffer :=
  if b.overflowed then (false, b)
  else
    let size := b.size + chunk.length
    if b.limit < size then (false, { b with chunks := [], size := 0, overflowed := true })
    else (true, { b with chunks := b.chunks ++ [chunk], size })

def take (b : ReplayBuffer) : List Bytes × ReplayBuffer :=
  (b.chunks, { b with chunks := [], size := 0 })

end ReplayBuffer

end Tunnel
