import Mathlib.Data.List.Find
import Turnstile.Proofs.Cluster.Numbering
import Turnstile.Proofs.Cluster.Startup

/-!
# Voters lead

Nothing asks for the role of whoever leads.  While operations on the cluster come one after another,
the leader is a voter all the same: a node that bootstraps the cluster is its first voter, a round and
a handover pick voters, nobody is ever demoted, and with a member goes its leadership.  Ids increase
along the list, so the first voter, whom a round elects when nobody leads, is the one with the
smallest id.
-/

namespace Turnstile

/-- Where keys increase, what is found first has the smallest key. -/
theorem find?_least {α : Type} {key : α → Nat} {p : α → Bool} {l : List α} {a b : α}
    (hincreasing : (l.map key).Pairwise (· < ·)) (hfound : l.find? p = some a) (hb : b ∈ l)
    (hpb : p b) : key a ≤ key b := by
  obtain ⟨_, before, after, rfl, hbefore⟩ := List.find?_eq_some_iff_append.1 hfound
  rw [List.map_append, List.map_cons, List.pairwise_append, List.pairwise_cons] at hincreasing
  obtain hearlier | hrest := List.mem_append.1 hb
  · exact absurd hpb (by simpa using hbefore b hearlier)
  · obtain rfl | hlater := List.mem_cons.1 hrest
    · exact Nat.le_refl _
    · exact Nat.le_of_lt (hincreasing.2.1.1 _ (List.mem_map_of_mem hlater))

namespace Cluster

variable {c c' : Cluster} {m : Member} {id : Nat}

/-! ## Single operations -/

/-- Nobody leads, or a voter does. -/
def VoterLed (c : Cluster) : Prop :=
  ∀ id, c.leader = some id → ∃ m ∈ c.members, m.id = id ∧ m.role = .voter

theorem voterLed_of_none (hleader : c.leader = none) : c.VoterLed :=
  fun _ hid ↦ nomatch hleader.symm.trans hid

/-- The leader stays a voter if voters stay. -/
theorem VoterLed.mono (hled : c.VoterLed) (hleader : c'.leader = c.leader)
    (hvoters : ∀ m ∈ c.members, m.role = .voter → m ∈ c'.members) : c'.VoterLed := by
  intro id hid
  obtain ⟨m, hm, hid, hvoter⟩ := hled id (hleader ▸ hid)
  exact ⟨m, hvoters m hm hvoter, hid, hvoter⟩

/-- The first voter among the members. -/
def firstVoter? (c : Cluster) : Option Member :=
  c.members.find? (·.role = .voter)

theorem firstVoter?_mem (hfound : c.firstVoter? = some m) : m ∈ c.members ∧ m.role = .voter :=
  ⟨List.mem_of_find?_eq_some hfound, by simpa using List.find?_some hfound⟩

theorem firstVoter?_none (hnone : c.firstVoter? = none) : ∀ m ∈ c.members, m.role ≠ .voter := by
  simpa [firstVoter?] using hnone

theorem Numbered.firstVoter?_least (hc : c.Numbered) (hfound : c.firstVoter? = some m) :
    ∀ m' ∈ c.members, m'.role = .voter → m.id ≤ m'.id :=
  fun _ hm' hvoter ↦ find?_least hc.increasing hfound hm' (decide_eq_true hvoter)

/-- A promotion keeps the voters. -/
theorem mem_promote {voters standbys voterCount standbyCount : Nat} {members : List Member}
    (hm : m ∈ members) (hvoter : m.role = .voter) :
    m ∈ promote voters standbys voterCount standbyCount members := by
  induction members generalizing voterCount standbyCount with
  | nil => exact absurd hm List.not_mem_nil
  | cons first rest ih =>
    unfold promote
    obtain rfl | hrest := List.mem_cons.1 hm
    · rw [if_neg fun h ↦ h.2 hvoter, if_neg (by simp [hvoter])]
      exact List.mem_cons_self
    · split
      · exact List.mem_cons_of_mem _ (ih hrest)
      · split <;> exact List.mem_cons_of_mem _ (ih hrest)

theorem VoterLed.adjustRoles (hled : c.VoterLed) (voters standbys : Nat) :
    (c.adjustRoles voters standbys).VoterLed :=
  hled.mono rfl fun _ hm hvoter ↦ mem_promote hm hvoter

theorem VoterLed.add (hled : c.VoterLed) (address : String) (role : Role) :
    (c.add address role).2.VoterLed := by
  unfold Cluster.add
  split
  · exact hled
  · exact hled.mono rfl fun m hm _ ↦ List.mem_append_left _ hm

/-- A node that becomes a member is the leader of the cluster that it bootstraps, and a spare in any
other. -/
theorem VoterLed.join (hled : c.VoterLed) (o : Node.Options) :
    ((Node.join o).run.run answer c).2.VoterLed := by
  by_cases hempty : c.members = []
  · rw [join_of_empty hempty]
    rintro id hid
    exact ⟨_, List.mem_singleton_self _, Option.some.inj hid, rfl⟩
  · rw [join_of_members hempty]
    split
    · exact hled.add o.address .spare
    · exact hled

theorem run_leaderId_bind {α : Type} (next : Option Nat → Engine.ClusterAction α) (c : Cluster) :
    (Engine.leaderId >>= next).run.run answer c = (next c.leader).run.run answer c :=
  rfl

theorem run_members_bind {α : Type} (next : List Member → Engine.ClusterAction α) (c : Cluster) :
    (Engine.members >>= next).run.run answer c = (next c.members).run.run answer c :=
  rfl

/-- A round of rebalancing elects the first voter if nobody leads. -/
theorem rebalance_of_none (hleader : c.leader = none) (voters standbys : Nat) :
    ((Node.rebalance voters standbys).run.run answer c).2 =
      { c.adjustRoles voters standbys with
        leader := (c.adjustRoles voters standbys).firstVoter?.map Member.id } := by
  let promoted := c.adjustRoles voters standbys
  have hpromoted : promoted.leader = none := hleader
  have hrun : (Node.rebalance voters standbys).run.run answer c =
      Node.elect.run.run answer promoted := rfl
  rw [hrun, Node.elect, run_leaderId_bind, hpromoted, run_members_bind, firstVoter?]
  split
  case h_1 m hfound =>
    rw [hfound]
    rfl
  case h_2 hnone =>
    rw [hnone, Option.map_none, ← hleader]
    rfl

theorem VoterLed.rebalance (hled : c.VoterLed) (voters standbys : Nat) :
    ((Node.rebalance voters standbys).run.run answer c).2.VoterLed := by
  cases hleader : c.leader with
  | some id =>
    rw [rebalance_of_leader hleader]
    exact hled.adjustRoles voters standbys
  | none =>
    rw [rebalance_of_none hleader]
    intro id hid
    obtain ⟨m, hfound, rfl⟩ := Option.map_eq_some_iff.1 hid
    obtain ⟨hm, hvoter⟩ := firstVoter?_mem hfound
    exact ⟨m, hm, rfl, hvoter⟩

/-- A node that leads transfers leadership, any other does nothing. -/
theorem handover_some (c : Cluster) (id : Nat) :
    ((Node.handover (some id)).run.run answer c).2 = (c.transferLeadership id).2 := by
  have hrun : (Node.handover (some id)).run.run answer c =
      (if c.leader = some id then do
          let _ ← Engine.transferLeadership id
          return ()
        else return ()).run.run answer c := rfl
  rw [hrun]
  split
  case isTrue => rfl
  case isFalse hother =>
    rw [transferLeadership, if_pos hother]
    rfl

theorem VoterLed.transferLeadership (hled : c.VoterLed) (source : Nat) :
    (c.transferLeadership source).2.VoterLed := by
  unfold Cluster.transferLeadership
  split
  · exact hled
  · split
    case h_1 m hfound =>
      have hother : m.id ≠ source ∧ m.role = .voter := by simpa using List.find?_some hfound
      intro id hid
      exact ⟨m, List.mem_of_find?_eq_some hfound, Option.some.inj hid, hother.2⟩
    case h_2 => exact hled

theorem VoterLed.handover (hled : c.VoterLed) (id : Option Nat) :
    ((Node.handover id).run.run answer c).2.VoterLed := by
  cases id with
  | none => exact hled
  | some id =>
    rw [handover_some]
    exact hled.transferLeadership id

theorem VoterLed.remove (hled : c.VoterLed) (id : Nat) : (c.remove id).2.VoterLed := by
  unfold Cluster.remove
  split
  · exact hled
  · intro leader hleader
    simp only at hleader
    split at hleader
    case isTrue => simp at hleader
    case isFalse hother =>
      obtain ⟨m, hm, rfl, hvoter⟩ := hled leader hleader
      have hstays : m.id ≠ id := fun heq ↦ hother (heq ▸ hleader)
      exact ⟨m, List.mem_filter.2 ⟨hm, by simpa using hstays⟩, rfl, hvoter⟩

/-- Whatever a program does to the cluster, its members stay numbered. -/
theorem Numbered.run {α : Type} (hc : c.Numbered) (p : Program interface α) :
    (p.run Cluster.answer c).2.Numbered := by
  induction p generalizing c with
  | done => exact hc
  | call call next ih => exact ih _ (hc.answer call)

/-! ## Nodes over one cluster -/

/-- Nodes that share a cluster.  A node that restarts is another one at the same address. -/
structure Ensemble where
  cluster : Cluster
  /-- The id that a node was given when it last became a member. -/
  id? : String → Option Nat

/-- What is done with nodes, each from its beginning to its end. -/
inductive Operation where
  /-- A node becomes a member. -/
  | ready (node : String) (o : Node.Options)
  /-- A round of rebalancing. -/
  | round (voters standbys : Nat)
  /-- A node hands leadership over. -/
  | handover (node : String)
  /-- A node is closed, so that there are no more rounds of it. -/
  | close (node : String)
  /-- A member is removed. -/
  | remove (id : Nat)

namespace Ensemble

/-- Nodes none of which is a member yet. -/
def start : Ensemble := ⟨.empty, fun _ ↦ none⟩

/-- The nodes after an operation. -/
def after (e : Ensemble) : Operation → Ensemble
  | .ready node o =>
    match (Node.join o).run.run answer e.cluster with
    | (.ok id, cluster) => ⟨cluster, Function.update e.id? node (some id)⟩
    | (.error _, cluster) => { e with cluster }
  | .round voters standbys =>
    { e with cluster := ((Node.rebalance voters standbys).run.run answer e.cluster).2 }
  | .handover node =>
    { e with cluster := ((Node.handover (e.id? node)).run.run answer e.cluster).2 }
  | .close _ => e
  | .remove id => { e with cluster := ((Engine.remove id).run.run answer e.cluster).2 }

/-- The nodes after operations one after another. -/
inductive Reachable : Ensemble → Prop where
  | start : Reachable start
  | after {e : Ensemble} (o : Operation) : Reachable e → Reachable (e.after o)

variable {e : Ensemble} {node : String}

theorem Reachable.run (hreach : e.Reachable) (operations : List Operation) :
    (operations.foldl Ensemble.after e).Reachable := by
  induction operations generalizing e with
  | nil => exact hreach
  | cons o rest ih => exact ih (hreach.after o)

theorem cluster_ready (e : Ensemble) (node : String) (o : Node.Options) :
    (e.after (.ready node o)).cluster = ((Node.join o).run.run answer e.cluster).2 := by
  simp only [after]
  split
  case h_1 hjoin => rw [hjoin]
  case h_2 hjoin => rw [hjoin]

theorem numbered_after (hnumbered : e.cluster.Numbered) (o : Operation) :
    (e.after o).cluster.Numbered := by
  cases o with
  | ready node o =>
    rw [cluster_ready]
    exact hnumbered.run _
  | round voters standbys => exact hnumbered.run _
  | handover node => exact hnumbered.run _
  | close node => exact hnumbered
  | remove id => exact hnumbered.run _

theorem voterLed_after (hled : e.cluster.VoterLed) (o : Operation) :
    (e.after o).cluster.VoterLed := by
  cases o with
  | ready node o =>
    rw [cluster_ready]
    exact hled.join o
  | round voters standbys => exact hled.rebalance voters standbys
  | handover node => exact hled.handover (e.id? node)
  | close node => exact hled
  | remove id => exact hled.remove id

theorem Reachable.numbered (hreach : e.Reachable) : e.cluster.Numbered := by
  induction hreach with
  | start => exact numbered_empty
  | after o _ ih => exact numbered_after ih o

theorem Reachable.voterLed (hreach : e.Reachable) : e.cluster.VoterLed := by
  induction hreach with
  | start => exact voterLed_of_none rfl
  | after o _ ih => exact voterLed_after ih o

/-! ## Who leads next -/

/-- A node that leads hands leadership to another voter, if there is one. -/
theorem handover_leading (hnode : e.id? node = some id) (hleads : e.cluster.leader = some id) :
    (∃ m ∈ e.cluster.members, m.id ≠ id ∧ m.role = .voter ∧
        e.after (.handover node) = { e with cluster.leader := some m.id }) ∨
      (∀ m ∈ e.cluster.members, m.role = .voter → m.id = id) ∧ e.after (.handover node) = e := by
  have hafter : e.after (.handover node) =
      { e with cluster := (e.cluster.transferLeadership id).2 } := by
    simp only [after, hnode, handover_some]
  rw [hafter, transferLeadership, if_neg (not_not_intro hleads)]
  cases hfound : e.cluster.members.find? fun m ↦ m.id ≠ id ∧ m.role = .voter with
  | some m =>
    have hother : m.id ≠ id ∧ m.role = .voter := by simpa using List.find?_some hfound
    exact .inl ⟨m, List.mem_of_find?_eq_some hfound, hother.1, hother.2, rfl⟩
  | none =>
    refine .inr ⟨fun m hm hvoter ↦ ?_, rfl⟩
    by_contra hother
    exact absurd (decide_eq_true ⟨hother, hvoter⟩) (List.find?_eq_none.1 hfound m hm)

theorem handover_other (hother : ∀ id, e.id? node = some id → e.cluster.leader ≠ some id) :
    e.after (.handover node) = e := by
  simp only [after]
  cases hnode : e.id? node with
  | none => rfl
  | some id => rw [handover_some, transferLeadership, if_pos (hother id hnode)]

theorem remove_leader (hled : e.cluster.VoterLed) (hleads : e.cluster.leader = some id) :
    ((Engine.remove id).run.run answer e.cluster).1 = .ok () ∧
      (e.after (.remove id)).cluster.leader = none := by
  obtain ⟨m, hm, hid, _⟩ := hled id hleads
  have hmember : e.cluster.member? id ≠ none := by
    rw [member?, ne_eq, List.find?_eq_none]
    exact fun hnone ↦ hnone m hm (decide_eq_true hid)
  obtain ⟨found, hfound⟩ := Option.ne_none_iff_exists'.1 hmember
  have hremove : e.cluster.remove id =
      (.ok (), { e.cluster with members := e.cluster.members.filter (·.id ≠ id), leader := none }) := by
    rw [Cluster.remove, hfound]
    simp [hleads]
  change (e.cluster.remove id).1 = .ok () ∧ (e.cluster.remove id).2.leader = none
  rw [hremove]
  exact ⟨rfl, rfl⟩

/-- A round that starts without a leader elects the voter with the smallest id. -/
theorem round_without_leader (hnumbered : e.cluster.Numbered) (hnobody : e.cluster.leader = none)
    (voters standbys : Nat) :
    (∃ m ∈ (e.cluster.adjustRoles voters standbys).members, m.role = .voter ∧
        (∀ m' ∈ (e.cluster.adjustRoles voters standbys).members, m'.role = .voter → m.id ≤ m'.id) ∧
        (e.after (.round voters standbys)).cluster.leader = some m.id) ∨
      (∀ m ∈ (e.cluster.adjustRoles voters standbys).members, m.role ≠ .voter) ∧
        (e.after (.round voters standbys)).cluster.leader = none := by
  have hpromoted : (e.cluster.adjustRoles voters standbys).Numbered :=
    hnumbered.answer (.adjustRoles voters standbys)
  have hleader : (e.after (.round voters standbys)).cluster.leader =
      (e.cluster.adjustRoles voters standbys).firstVoter?.map Member.id := by
    simp only [after, rebalance_of_none hnobody]
  rw [hleader]
  cases hfound : (e.cluster.adjustRoles voters standbys).firstVoter? with
  | some m =>
    obtain ⟨hm, hvoter⟩ := firstVoter?_mem hfound
    exact .inl ⟨m, hm, hvoter, hpromoted.firstVoter?_least hfound, rfl⟩
  | none => exact .inr ⟨firstVoter?_none hfound, rfl⟩

theorem round_with_leader (hleads : e.cluster.leader = some id) (voters standbys : Nat) :
    (e.after (.round voters standbys)).cluster.leader = some id := by
  simp only [after, rebalance_of_leader hleads]
  exact hleads

/-- Who leads, and what becomes of it. -/
structure Succession (e : Ensemble) : Prop where
  voter : e.cluster.leader = none ∨
    ∃ m ∈ e.cluster.members, e.cluster.leader = some m.id ∧ m.role = .voter
  handover : ∀ node id, e.id? node = some id → e.cluster.leader = some id →
    (∃ m ∈ e.cluster.members, m.id ≠ id ∧ m.role = .voter ∧
        e.after (.handover node) = { e with cluster.leader := some m.id }) ∨
      (∀ m ∈ e.cluster.members, m.role = .voter → m.id = id) ∧ e.after (.handover node) = e
  /-- A node that does not lead has nothing to hand over. -/
  idle : ∀ node, (∀ id, e.id? node = some id → e.cluster.leader ≠ some id) →
    e.after (.handover node) = e
  removal : ∀ id, e.cluster.leader = some id →
    ((Engine.remove id).run.run answer e.cluster).1 = .ok () ∧
      (e.after (.remove id)).cluster.leader = none
  election : ∀ voters standbys, e.cluster.leader = none →
    (∃ m ∈ (e.cluster.adjustRoles voters standbys).members, m.role = .voter ∧
        (∀ m' ∈ (e.cluster.adjustRoles voters standbys).members, m'.role = .voter → m.id ≤ m'.id) ∧
        (e.after (.round voters standbys)).cluster.leader = some m.id) ∨
      (∀ m ∈ (e.cluster.adjustRoles voters standbys).members, m.role ≠ .voter) ∧
        (e.after (.round voters standbys)).cluster.leader = none
  standing : ∀ voters standbys id, e.cluster.leader = some id →
    (e.after (.round voters standbys)).cluster.leader = some id

theorem Reachable.succession (hreach : e.Reachable) : e.Succession where
  voter := by
    cases hleader : e.cluster.leader with
    | none => exact .inl rfl
    | some id =>
      obtain ⟨m, hm, rfl, hvoter⟩ := hreach.voterLed id hleader
      exact .inr ⟨m, hm, rfl, hvoter⟩
  handover _ _ hnode hleads := handover_leading hnode hleads
  idle _ hother := handover_other hother
  removal _ hleads := remove_leader hreach.voterLed hleads
  election voters standbys hnobody := round_without_leader hreach.numbered hnobody voters standbys
  standing voters standbys _ hleads := round_with_leader hleads voters standbys

/-- Three nodes become members, two of them voters.  The first hands leadership over and is removed,
comes back as a spare, and then the one that leads is removed. -/
def succeeded : Ensemble :=
  [.ready "a" (.standard "10.0.0.1:8081"), .ready "b" (.standard "10.0.0.2:8081"),
    .ready "c" (.standard "10.0.0.3:8081"), .round 2 1, .handover "a", .remove 1, .close "a",
    .ready "a" (.standard "10.0.0.1:8081"), .remove 2].foldl after start

theorem succession_succeeded :
    succeeded.cluster = ⟨[⟨3, "10.0.0.3:8081", .standBy⟩, ⟨4, "10.0.0.1:8081", .spare⟩], none, 4⟩ ∧
      (succeeded.after (.round 1 0)).cluster.leader = some 3 ∧ succeeded.Succession := by
  exact ⟨by decide +kernel, by decide +kernel, Reachable.succession (Reachable.start.run _)⟩

end Ensemble

end Cluster

end Turnstile
