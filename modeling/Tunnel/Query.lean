import Tunnel.Destination
import Tunnel.Text.Numeral
import Tunnel.Text.Split

/-!
# Destinations in a query

A client names its destination in the query of its request, as the values of `host` and `port`.
The last value of a key wins, values are not decoded, a missing host is empty, and a missing
port or one that is no 16-bit numeral is zero.

## Main definitions

* `Query.pairs` — the key and value of each piece between ampersands.
* `Destination.ofQuery` — the destination that a query names.
-/

namespace Tunnel

namespace Query

/-- The keys and values of a query; a piece without an equals sign has the empty value. -/
def pairs (query : List Char) : List (List Char × List Char) :=
  (Text.pieces '&' query).map fun piece =>
    let (key, value) := Text.cut '=' piece
    (key, value.getD [])

/-- The port that a value names, zero if it is no 16-bit numeral. -/
def port (value : List Char) : UInt16 :=
  UInt16.ofNat ((Text.readNumeral? 65535 value).getD 0)

/-- The destination after one more pair. -/
def assign (d : Destination) (pair : List Char × List Char) : Destination :=
  if pair.1 = "host".toList then { d with host := String.ofList pair.2 }
  else if pair.1 = "port".toList then { d with port := port pair.2 }
  else d

end Query

/-- The destination that a query names. -/
def Destination.ofQuery (query : String) : Destination :=
  (Query.pairs query.toList).foldl Query.assign { host := "", port := 0 }

end Tunnel
