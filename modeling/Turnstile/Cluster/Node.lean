import Turnstile.Engine

/-!
# The life of a node

A node becomes a member by bootstrapping an empty cluster, which it then leads as its first voter,
or by joining one as a spare; with a join list, at least one of the listed addresses must be a
member.  While it is up, rounds of rebalancing promote members and elect a leader when there is
none.  Before it stops, a leading node hands leadership over.
-/

namespace Turnstile.Cluster.Node

open Engine (ClusterAction)

/-- How a node takes part in a cluster; times are in milliseconds. -/
structure Options where
  /-- The node's own replication address. -/
  address : String
  /-- The members to contact when joining. -/
  join : List String
  voters : Nat
  standbys : Nat
  latency : Nat
  /-- The time between two rounds of rebalancing. -/
  rolesPeriod : Nat
  /-- How long a writer waits for the lock. -/
  busyTimeout : Nat
deriving DecidableEq, Repr

/-- The options of a node that nothing else is said about. -/
def Options.standard (address : String) : Options where
  address := address
  join := []
  voters := 3
  standbys := 0
  latency := 5
  rolesPeriod := 1000
  busyTimeout := 0

/-- A join list without a member. -/
def noJoinTarget (join : List String) : Error :=
  .storage ("no join target among " ++ String.intercalate "," join)

/-- Whether a node may join beside the members. -/
def reachable (join : List String) (members : List Member) : Bool :=
  join.isEmpty || join.any fun address ↦ members.any (·.address = address)

/-- Makes the node a member and answers its id. -/
def join (o : Options) : ClusterAction Nat := do
  if ← Engine.isEmpty then
    let id ← Engine.add o.address .voter
    Engine.setLeader (some id)
    return id
  else
    let members ← Engine.members
    if reachable o.join members then Engine.add o.address .spare
    else throw (noJoinTarget o.join)

/-- Makes the first voter the leader if nobody leads. -/
def elect : ClusterAction Unit := do
  match ← Engine.leaderId with
  | some _ => return ()
  | none =>
    match (← Engine.members).find? (·.role = .voter) with
    | some m => Engine.setLeader (some m.id)
    | none => return ()

/-- One round of rebalancing: promotes members, then elects a leader if there is none. -/
def rebalance (voters standbys : Nat) : ClusterAction Unit := do
  Engine.adjustRoles voters standbys
  elect

/-- Hands leadership to another voter if the node leads and there is one.  A node that is no member
does nothing. -/
def handover (id : Option Nat) : ClusterAction Unit := do
  match id with
  | none => return ()
  | some id =>
    if (← Engine.leaderId) = some id then
      let _ ← Engine.transferLeadership id
    return ()

/-- Opening a database before the node is a member. -/
def notReady (name : String) : Error :=
  .storage ("cannot open " ++ name ++ ": node is not ready")

/-- Whether a database can be opened: the node must be a member. -/
def openDatabase (id : Option Nat) (name : String) : Except Error Unit :=
  if id.isSome then .ok () else .error (notReady name)

end Turnstile.Cluster.Node
