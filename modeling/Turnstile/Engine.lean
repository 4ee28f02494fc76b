import Turnstile.Cluster.Basic

/-!
# Using the cluster

The calls of the cluster as actions.  Only changes that name a member can fail.
-/

namespace Turnstile.Engine

/-- Actions on the cluster. -/
abbrev ClusterAction (α : Type) : Type :=
  Action Cluster.interface α

/-- The action that makes one call, which cannot fail. -/
def ask (c : Cluster.interface.Call) : ClusterAction (Cluster.interface.Answer c) :=
  ExceptT.lift (Program.ask c)

def add (address : String) (role : Role) : ClusterAction Nat :=
  ask (.add address role)

def setLeader (id : Option Nat) : ClusterAction Unit :=
  ask (.setLeader id)

def leaderId : ClusterAction (Option Nat) :=
  ask .leaderId

def leader : ClusterAction (Option Member) :=
  ask .leader

def members : ClusterAction (List Member) :=
  ask .members

def isEmpty : ClusterAction Bool :=
  ask .isEmpty

def adjustRoles (voters standbys : Nat) : ClusterAction Unit :=
  ask (.adjustRoles voters standbys)

def transferLeadership (source : Nat) : ClusterAction (Option Nat) :=
  ask (.transferLeadership source)

def setRole (id : Nat) (role : Role) : ClusterAction Unit :=
  ExceptT.mk (Program.ask (I := Cluster.interface) (.setRole id role))

def remove (id : Nat) : ClusterAction Unit :=
  ExceptT.mk (Program.ask (I := Cluster.interface) (.remove id))

/-- A result that is known without asking. -/
def ofResult {α : Type} (result : Except Error α) : ClusterAction α :=
  ExceptT.mk (.done result)

end Turnstile.Engine
