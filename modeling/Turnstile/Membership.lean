import Turnstile.Engine
import Turnstile.Resolver
import Turnstile.Text.Blank

/-!
# Membership by name

Clients ask who leads, who belongs and whether the cluster has settled, and remove a member, all by
name.  A listing goes from addresses to names, a removal from a name to an address; a removal acts
on the member that had the address when the list was read.  Nothing can be asked of a cluster
without members.
-/

namespace Turnstile.Membership

open Engine (ClusterAction)

/-- How addresses become names and names addresses. -/
structure Directory where
  resolver : Resolver
  replicationPort : Nat

/-- A cluster without members has no leader to ask. -/
def noLeaderServer : Error :=
  .storage "no available leader server found"

/-- Makes sure that there is someone to ask. -/
def connect : ClusterAction Unit := do
  if ← Engine.isEmpty then throw noLeaderServer

/-- The leading member, if there is one. -/
def leadingMember : ClusterAction (Option Member) := do
  connect
  Engine.leader

/-- The members in order. -/
def allMembers : ClusterAction (List Member) := do
  connect
  Engine.members

/-- Removes the member with an id. -/
def removeById (id : Nat) : ClusterAction Unit := do
  connect
  Engine.remove id

/-- The name of the leader, if there is one. -/
def leader (d : Directory) : ClusterAction (Option String) := do
  match ← leadingMember with
  | none => return none
  | some m =>
    let name ← Engine.ofResult (d.resolver.identity m.address)
    return some name

/-- The names of all members in order.  One member without a name fails the whole listing. -/
def members (d : Directory) : ClusterAction (List String) := do
  let found ← allMembers
  Engine.ofResult (found.mapM fun m ↦ d.resolver.identity m.address)

/-- The id of the member that a name stands for. -/
def select (d : Directory) (name : String) (members : List Member) : Except Error Nat :=
  match d.resolver.forward name with
  | .error e => .error e
  | .ok ip =>
    match members.find? (·.address = Net.Address.make ip.text d.replicationPort) with
    | some m => .ok m.id
    | none => .error (.nodeNotFound name)

/-- Removes the member that a name, with white space allowed around it, stands for. -/
def remove (d : Directory) (name : String) : ClusterAction Unit := do
  let found ← allMembers
  let id ← Engine.ofResult (select d (String.ofList (Text.trim name.toList)) found)
  Engine.remove id

/-- The cluster is ready when it has the expected number of members and none is a spare. -/
def readiness (members : List Member) (expected : Nat) : Except Error Unit :=
  if members.length ≠ expected then .error (.clusterIncomplete expected members.length)
  else
    match members.find? (·.role = .spare) with
    | some m => .error (.nodeNotVoter m.address m.role.text)
    | none => .ok ()

/-- Succeeds once the cluster is ready. -/
def ready (expected : Nat) : ClusterAction Unit := do
  let found ← allMembers
  Engine.ofResult (readiness found expected)

end Turnstile.Membership
