import Turnstile.Text.Numeral

/-!
# Replication addresses

A node is known to the engine by the text `host:port`.  A host that holds a colon, as an IPv6
address does, stands in square brackets.
-/

namespace Turnstile.Net.Address

/-- The address of a host and a port. -/
def make (host : String) (port : Nat) : String :=
  if host.toList.contains ':' then "[" ++ host ++ "]:" ++ Numeral.write port
  else host ++ ":" ++ Numeral.write port

/-- The part before the last colon, or all of a text without one. -/
def beforeLastColon (s : List Char) : List Char :=
  match s.reverse.dropWhile (· ≠ ':') with
  | [] => s
  | _ :: rest => rest.reverse

/-- The host of an address. -/
def host (address : String) : String :=
  match address.toList with
  | '[' :: rest => String.ofList (rest.takeWhile (· ≠ ']'))
  | s => String.ofList (beforeLastColon s)

end Turnstile.Net.Address
