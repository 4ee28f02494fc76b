import Turnstile.Net.Address

/-!
# Peers of a node

The configured names list a cluster in the order in which its nodes start.  A node that starts for
the first time contacts the nodes before it; one that comes back contacts all the others.
-/

namespace Turnstile.Net.Peers

/-- The addresses of the names before the first occurrence of `node`, none if it does not occur. -/
def preceding (node : String) (names : List String) (port : Nat) : List String :=
  if names.contains node then (names.takeWhile (· ≠ node)).map (Address.make · port) else []

/-- The addresses of all names other than `node`. -/
def others (node : String) (names : List String) (port : Nat) : List String :=
  (names.filter (· ≠ node)).map (Address.make · port)

end Turnstile.Net.Peers
