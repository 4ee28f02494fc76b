import Turnstile.Program

/-!
# Cluster membership

The replication engine keeps the members of the cluster in the order in which they were added, and
at most one of them as leader.  An id is never given twice, so it names one stay of a node in the
cluster.  Every method is a call that happens at once.
-/

namespace Turnstile

/-- How a node takes part in replication. -/
inductive Role where
  /-- Replicates the log and votes. -/
  | voter
  /-- Replicates the log, ready to be promoted. -/
  | standBy
  /-- Does neither. -/
  | spare
deriving DecidableEq, Repr

/-- How messages name a role. -/
def Role.text : Role → String
  | voter => "voter"
  | standBy => "stand-by"
  | spare => "spare"

/-- A node that belongs to the cluster. -/
structure Member where
  id : Nat
  address : String
  role : Role
deriving DecidableEq, Repr

/-- The members, the leader's id and the last id given.  The ids stand for 64-bit words, so fewer than
2 ^ 64 additions are meant. -/
structure Cluster where
  members : List Member
  leader : Option Nat
  lastId : Nat
deriving DecidableEq, Repr

namespace Cluster

/-- A cluster that nobody has joined. -/
def empty : Cluster := ⟨[], none, 0⟩

/-- A change that names a node outside the cluster. -/
def notAMember (id : Nat) : Error :=
  .storage ("node " ++ Numeral.write id ++ " does not belong to the cluster")

/-- The member with an id. -/
def member? (c : Cluster) (id : Nat) : Option Member :=
  c.members.find? (·.id = id)

/-- Adds a node under a new id.  An address that is already there keeps its id and its role. -/
def add (c : Cluster) (address : String) (role : Role) : Nat × Cluster :=
  match c.members.find? (·.address = address) with
  | some m => (m.id, c)
  | none =>
    let id := c.lastId + 1
    (id, { c with members := c.members ++ [⟨id, address, role⟩], lastId := id })

/-- Changes the role of a member. -/
def setRole (c : Cluster) (id : Nat) (role : Role) : Except Error Unit × Cluster :=
  match c.member? id with
  | none => (.error (notAMember id), c)
  | some _ =>
    let members := c.members.map fun m ↦ if m.id = id then { m with role } else m
    (.ok (), { c with members })

/-- Removes a member; if it led, nobody leads any more. -/
def remove (c : Cluster) (id : Nat) : Except Error Unit × Cluster :=
  match c.member? id with
  | none => (.error (notAMember id), c)
  | some _ =>
    let members := c.members.filter (·.id ≠ id)
    let leader := if c.leader = some id then none else c.leader
    (.ok (), { c with members, leader })

/-- How many members have a role. -/
def countRole (role : Role) (members : List Member) : Nat :=
  members.countP (·.role = role)

/-- Promotes members in order while targets are missed: to voter below `voters`, else from spare to
stand-by below `standbys`.  The counts are those of the whole list. -/
def promote (voters standbys voterCount standbyCount : Nat) : List Member → List Member
  | [] => []
  | m :: rest =>
    if voterCount < voters ∧ m.role ≠ .voter then
      { m with role := .voter } ::
        promote voters standbys (voterCount + 1)
          (if m.role = .standBy then standbyCount - 1 else standbyCount) rest
    else if standbyCount < standbys ∧ m.role = .spare then
      { m with role := .standBy } :: promote voters standbys voterCount (standbyCount + 1) rest
    else m :: promote voters standbys voterCount standbyCount rest

/-- Promotes the earliest members until there are enough voters and stand-bys.  Nobody is
demoted. -/
def adjustRoles (c : Cluster) (voters standbys : Nat) : Cluster :=
  let voterCount := countRole .voter c.members
  let standbyCount := countRole .standBy c.members
  { c with members := promote voters standbys voterCount standbyCount c.members }

/-- Hands leadership from a node to the first other voter, if the node leads and there is one.
Answers who leads afterwards. -/
def transferLeadership (c : Cluster) (source : Nat) : Option Nat × Cluster :=
  if c.leader ≠ some source then (c.leader, c)
  else
    match c.members.find? fun m ↦ m.id ≠ source ∧ m.role = .voter with
    | some m => (some m.id, { c with leader := some m.id })
    | none => (c.leader, c)

/-- What programs ask of the cluster. -/
inductive Call where
  | add (address : String) (role : Role)
  | setRole (id : Nat) (role : Role)
  | setLeader (id : Option Nat)
  | leaderId
  | leader
  | members
  | isEmpty
  | remove (id : Nat)
  | adjustRoles (voters standbys : Nat)
  | transferLeadership (source : Nat)
deriving DecidableEq, Repr

/-- The calls of the cluster and their answers. -/
def interface : Interface where
  Call := Call
  Answer
    | .add _ _ => Nat
    | .setRole _ _ => Except Error Unit
    | .setLeader _ => Unit
    | .leaderId => Option Nat
    | .leader => Option Member
    | .members => List Member
    | .isEmpty => Bool
    | .remove _ => Except Error Unit
    | .adjustRoles _ _ => Unit
    | .transferLeadership _ => Option Nat

/-- The answer to a call and the cluster after it. -/
def answer : (c : interface.Call) → Cluster → interface.Answer c × Cluster
  | .add address role, c => c.add address role
  | .setRole id role, c => c.setRole id role
  | .setLeader id, c => ((), { c with leader := id })
  | .leaderId, c => (c.leader, c)
  | .leader, c => (c.leader.bind c.member?, c)
  | .members, c => (c.members, c)
  | .isEmpty, c => (c.members.isEmpty, c)
  | .remove id, c => c.remove id
  | .adjustRoles voters standbys, c => ((), c.adjustRoles voters standbys)
  | .transferLeadership source, c => c.transferLeadership source

end Cluster

end Turnstile
