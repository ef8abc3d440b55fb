/-!
# Choosing the fallback host

One fallback host is picked from the configured ones when the process first asks for it, and
stays the same from then on. Which one is left to chance, that is to a number from outside.

## Main definitions

* `Egress.choose` — a member of the list.
* `Egress.init` — the process-wide choice.
-/

namespace Tunnel.Egress

/-- The member of the list that a random number leads to; an empty list has none. -/
def choose (random : Nat) (addresses : List String) : Option String :=
  addresses[random % addresses.length]?

inductive Problem
  | noAddress
  deriving DecidableEq, Repr, Inhabited

def Problem.message : Problem → String
  | .noAddress => "fallback egress list is empty"

/-- The choice of the process: the one made before, or else one from the list. Gives the choice
together with what is chosen from now on. -/
def init (selected : Option String) (random : Nat) (addresses : List String) :
    Except Problem String × Option String :=
  match selected with
  | some address => (.ok address, selected)
  | none =>
    match choose random addresses with
    | some address => (.ok address, some address)
    | none => (.error .noAddress, none)

end Tunnel.Egress
