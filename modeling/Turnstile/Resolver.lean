import Turnstile.Error
import Turnstile.Net.Address
import Turnstile.Net.IpAddress

/-!
# Identities of nodes

The engine knows a node by its replication address, clients know it by name.  A resolver goes both
ways: from a host to the names registered for it, and from a name to an IP address.  The identity
of a node is the one name of its host; no name or several are a failure.
-/

namespace Turnstile

/-- Look-ups between hosts and names. -/
structure Resolver where
  /-- The names registered for a host. -/
  reverse : String → Except Error (List String)
  /-- The address of a name; an IP address is its own name. -/
  forward : String → Except Error Net.IpAddress

namespace Resolver

/-- The only one of the names found for an address. -/
def soleName (address : String) : List String → Except Error String
  | [name] => .ok name
  | [] => .error (.unresolvedNode address "no host name")
  | names =>
    .error (.unresolvedNode address
      ("more than one host name: " ++ String.intercalate ", " names))

/-- A failed look-up as a failure to resolve `address`. -/
def asUnresolved (address : String) : Error → Error
  | .unresolvedNode host reason => .unresolvedNode host reason
  | e => .unresolvedNode address e.message

/-- The name of the node at an address. -/
def identity (r : Resolver) (address : String) : Except Error String :=
  match r.reverse (Net.Address.host address) with
  | .ok names => soleName address names
  | .error e => .error (asUnresolved address e)

/-- The resolver of a fixed table of hosts with their names, in the order of the hosts.  A name
belongs to the first host that has it, which must be an IP address. -/
def ofTable (table : List (String × String)) : Resolver where
  reverse host :=
    match table.lookup host with
    | some name => .ok [name]
    | none => .error (.unresolvedNode host "unknown node")
  forward name :=
    match Net.IpAddress.parse name with
    | some ip => .ok ip
    | none =>
      match (table.find? fun entry ↦ entry.2 = name).bind fun entry ↦
          Net.IpAddress.parse entry.1 with
      | some ip => .ok ip
      | none => .error (.unresolvedNode name "unknown node")

/-- The resolver with some hosts answered apart: `broken` ones fail to resolve at all, and those of
`names` have the names listed. -/
def withOverrides (r : Resolver) (names : List (String × List String)) (broken : List String) :
    Resolver where
  reverse host :=
    if broken.contains host then .error (.internal "resolver down")
    else
      match names.lookup host with
      | some found => .ok found
      | none => r.reverse host
  forward := r.forward

end Resolver

end Turnstile
