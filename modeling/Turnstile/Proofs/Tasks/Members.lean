import Turnstile.Membership
import Turnstile.Proofs.Tasks.Standing

/-!
# Membership by tasks

Rules for the actions on the cluster.  A task makes them while it holds nothing.  What asks about the
members leaves no deed, and a removal leaves one exactly if it succeeds.
-/

namespace Turnstile

/-- The protocol of the cluster: its calls can be made by tasks that hold nothing. -/
def Cluster.protocol : Protocol Cluster.interface Standing where
  Permits s _ := s.use = none
  Follows s c a s' := s' = { s with deeds := s.deeds.change (Cluster.changes c a) }

namespace Engine

variable {α β : Type} {During : Deeds → Prop} {d : Deeds}

/-- The action keeps to the protocol of the cluster, with `During` true of what the task has done at
every call. -/
def Meets (During : Deeds → Prop) (Q : Except Error α → Standing → Prop) (p : ClusterAction α)
    (s : Standing) : Prop :=
  Action.Meets Cluster.protocol (fun s ↦ During s.deeds) Q p s

/-- The action only asks: whatever its result, the task has done as much as before. -/
def Asks (During : Deeds → Prop) (d : Deeds) (p : ClusterAction α) : Prop :=
  Meets During (fun _ s ↦ s = ⟨d, none⟩) p ⟨d, none⟩

namespace Asks

theorem ofResult (result : Except Error α) : Asks During d (Engine.ofResult result) := rfl

theorem bind {p : ClusterAction α} {f : α → ClusterAction β} (hp : Asks During d p)
    (hf : ∀ a, Asks During d (f a)) : Asks During d (p >>= f) := by
  apply Action.Meets.andThen hp
  · rintro a _ rfl
    exact hf a
  · exact fun _ _ hsame ↦ hsame

/-- Calls that change nothing whatever the answer. -/
theorem ask {c : Cluster.interface.Call} (hduring : During d)
    (hsame : ∀ a, Cluster.changes c a = false) : Asks During d (Engine.ask c) := by
  refine ⟨hduring, rfl, ?_⟩
  rintro a s' rfl
  change (⟨d.change (Cluster.changes c a), none⟩ : Standing) = ⟨d, none⟩
  rw [hsame a]
  rfl

end Asks

/-- A removal is a change if it succeeds. -/
theorem meets_remove {id : Nat} {Q : Except Error Unit → Standing → Prop} (hduring : During d)
    (hfail : ∀ e, Q (.error e) ⟨d, none⟩) (hremoved : Q (.ok ()) ⟨d.change true, none⟩) :
    Meets During Q (remove id) ⟨d, none⟩ := by
  refine ⟨hduring, rfl, ?_⟩
  rintro (e | ⟨⟩) s' rfl
  · exact hfail e
  · exact hremoved

end Engine

/-- An action on the cluster does as part of the service what it does alone. -/
theorem Service.meets_onCluster {α : Type} {During : Deeds → Prop}
    {Q : Except Error α → Standing → Prop} {p : Engine.ClusterAction α} {s : Standing}
    (hp : Engine.Meets During Q p s) :
    Action.Meets Service.protocol (fun s ↦ During s.deeds) Q (onCluster p) s := by
  apply Action.Meets.interpret ?_ hp
  intro c s hduring hpermits
  exact ⟨hduring, hpermits, fun _ _ hfollows ↦ hfollows⟩

namespace Membership

open Engine (Asks)

variable {During : Deeds → Prop} {d : Deeds} (directory : Directory)

section

variable (hduring : During d)

include hduring

theorem asks_connect : Asks During d connect := by
  apply Asks.bind (Asks.ask hduring fun _ ↦ rfl)
  intro empty
  cases empty <;> rfl

theorem asks_allMembers : Asks During d allMembers :=
  (asks_connect hduring).bind fun _ ↦ Asks.ask hduring fun _ ↦ rfl

theorem asks_leader : Asks During d (leader directory) := by
  have hleading : Asks During d leadingMember :=
    (asks_connect hduring).bind fun _ ↦ Asks.ask hduring fun _ ↦ rfl
  apply hleading.bind
  intro found
  cases found with
  | none => rfl
  | some m => exact (Asks.ofResult _).bind fun _ ↦ rfl

theorem asks_members : Asks During d (members directory) :=
  (asks_allMembers hduring).bind fun _ ↦ Asks.ofResult _

theorem asks_ready (expected : Nat) : Asks During d (ready expected) :=
  (asks_allMembers hduring).bind fun _ ↦ Asks.ofResult _

end

/-- A removal by name changes the cluster only if it succeeds. -/
theorem meets_remove {name : String} {Q : Except Error Unit → Standing → Prop} (hduring : During d)
    (hfail : ∀ e, Q (.error e) ⟨d, none⟩) (hremoved : Q (.ok ()) ⟨d.change true, none⟩) :
    Engine.Meets During Q (remove directory name) ⟨d, none⟩ := by
  apply Action.Meets.andThen (asks_allMembers hduring)
  · rintro members _ rfl
    apply Action.Meets.andThen (Asks.ofResult _)
    · rintro id _ rfl
      exact Engine.meets_remove hduring hfail hremoved
    · rintro e _ rfl
      exact hfail e
  · rintro e _ rfl
    exact hfail e

end Membership

end Turnstile
