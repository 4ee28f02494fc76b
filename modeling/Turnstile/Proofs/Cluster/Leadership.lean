import Turnstile.Cluster.Node
import Turnstile.Membership
import Turnstile.Proofs.Tasks.Choice
import Turnstile.Proofs.Tasks.Reliance

/-!
# Who is made leader

A single call never leaves a leader behind that is no member, unless it makes one leader who is none.
A node that bootstraps the cluster and a round that elects a leader take an id first and set it
afterwards, each with a call of its own, and a removal can come between.  The leader is a member for
as long as none does; after such a removal the id of a former member is set, and since a round elects
nobody while a leader is set, no round makes up for it.
-/

namespace Turnstile

namespace Cluster

/-- The ids of the members. -/
def ids (c : Cluster) : List Nat :=
  c.members.map Member.id

/-- Nobody leads, or a member does. -/
def Led (c : Cluster) : Prop :=
  ∀ id, c.leader = some id → id ∈ c.ids

instance (c : Cluster) : Decidable c.Led :=
  match hleader : c.leader with
  | none => isTrue (by simp [Led, hleader])
  | some id => decidable_of_iff (id ∈ c.ids) (by simp [Led, hleader])

variable {c c' : Cluster}

theorem led_empty : empty.Led := nofun

theorem Led.congr (hled : c.Led) (hleader : c'.leader = c.leader) (hids : c'.ids = c.ids) :
    c'.Led := by
  intro id hid
  rw [hids]
  exact hled id (hleader ▸ hid)

/-- A promotion changes nothing but roles. -/
theorem map_promote {α : Type} {f : Member → α} (hf : ∀ m role, f { m with role } = f m)
    (voters standbys : Nat) (members : List Member) (voterCount standbyCount : Nat) :
    (promote voters standbys voterCount standbyCount members).map f = members.map f := by
  induction members generalizing voterCount standbyCount with
  | nil => rfl
  | cons m rest ih =>
    unfold promote
    split
    · rw [List.map_cons, List.map_cons, ih, hf]
    · split
      · rw [List.map_cons, List.map_cons, ih, hf]
      · rw [List.map_cons, List.map_cons, ih]

/-- An added node is a member. -/
theorem mem_ids_add (c : Cluster) (address : String) (role : Role) :
    (c.add address role).1 ∈ (c.add address role).2.ids := by
  unfold add
  split
  case h_1 m hfound => exact List.mem_map_of_mem (List.mem_of_find?_eq_some hfound)
  case h_2 => simp [ids]

theorem Led.add (hled : c.Led) (address : String) (role : Role) : (c.add address role).2.Led := by
  unfold Cluster.add
  split
  · exact hled
  · intro id hid
    rw [ids, List.map_append]
    exact List.mem_append_left _ (hled id hid)

theorem Led.setRole (hled : c.Led) (id : Nat) (role : Role) : (c.setRole id role).2.Led := by
  unfold Cluster.setRole
  split
  · exact hled
  · refine hled.congr rfl ?_
    rw [ids, ids, List.map_map]
    apply List.map_congr_left
    intro m _
    simp only [Function.comp_apply]
    split <;> rfl

/-- A removed leader leads no more. -/
theorem Led.remove (hled : c.Led) (id : Nat) : (c.remove id).2.Led := by
  unfold Cluster.remove
  split
  · exact hled
  · intro leader hleader
    simp only at hleader
    split at hleader
    case isTrue => simp at hleader
    case isFalse hother =>
      obtain ⟨m, hm, rfl⟩ := List.mem_map.1 (hled leader hleader)
      have hstays : m.id ≠ id := fun heq ↦ hother (heq ▸ hleader)
      exact List.mem_map_of_mem (List.mem_filter.2 ⟨hm, by simpa using hstays⟩)

theorem Led.transferLeadership (hled : c.Led) (source : Nat) :
    (c.transferLeadership source).2.Led := by
  unfold Cluster.transferLeadership
  split
  · exact hled
  · split
    case h_1 m hfound =>
      intro id hid
      obtain rfl : m.id = id := Option.some.inj hid
      exact List.mem_map_of_mem (List.mem_of_find?_eq_some hfound)
    case h_2 => exact hled

/-- Only a call that makes somebody leader who is no member leaves such a leader behind. -/
theorem Led.answer (hled : c.Led) (call : interface.Call)
    (hinstalls : ∀ id, call = .setLeader (some id) → id ∈ c.ids) : (answer call c).2.Led := by
  cases call with
  | add address role => exact hled.add address role
  | setRole id role => exact hled.setRole id role
  | setLeader leader =>
    intro id hid
    exact hinstalls id (congrArg Call.setLeader hid)
  | leaderId | leader | members | isEmpty => exact hled
  | remove id => exact hled.remove id
  | adjustRoles voters standbys =>
    exact hled.congr rfl (map_promote (fun _ _ ↦ rfl) voters standbys c.members _ _)
  | transferLeadership source => exact hled.transferLeadership source

/-- A round of rebalancing elects nobody while a leader is set, be it a member or not. -/
theorem rebalance_of_leader {id : Nat} (hleader : c.leader = some id) (voters standbys : Nat) :
    ((Node.rebalance voters standbys).run.run answer c).2 = c.adjustRoles voters standbys := by
  obtain ⟨members, leader, lastId⟩ := c
  obtain rfl : leader = some id := hleader
  rfl

/-! ## Tasks on the cluster -/

/-- What tasks ask of the cluster. -/
inductive Request where
  | join (o : Node.Options)
  | rebalance (voters standbys : Nat)
  | handover (id : Option Nat)
  | remove (id : Nat)
  | removeByName (directory : Membership.Directory) (name : String)

/-- The type of the answer to a request. -/
def Answer : Request → Type
  | .join _ => Except Error Nat
  | _ => Except Error Unit

/-- Changes of the cluster, each a task of its own. -/
def changesOf : Workload where
  Request := Request
  Result := Answer
  serve
    | .join o => .run (Service.onCluster (Node.join o)).run
    | .rebalance voters standbys => .run (Service.onCluster (Node.rebalance voters standbys)).run
    | .handover id => .run (Service.onCluster (Node.handover id)).run
    | .remove id => .run (Service.onCluster (Membership.removeById id)).run
    | .removeByName directory name =>
      .run (Service.onCluster (Membership.remove directory name)).run

/-- A task has made somebody leader who was a member after its turn before and has been removed in
between. -/
def Overtaken (turns : List (Service × Service)) : Prop :=
  ∃ first s₁ s₁' s₂ s₂' last id, turns = first ++ (s₁, s₁') :: (s₂, s₂') :: last ∧
    id ∈ s₁'.cluster.ids ∧ id ∉ s₂.cluster.ids ∧ s₂'.cluster = { s₂.cluster with leader := some id }

/-! ## What tasks know of the members -/

/-- Whom a task may make leader knowing who belongs to the cluster. -/
def NamesMember (known : List Nat) : interface.Call → Prop
  | .setLeader (some id) => id ∈ known
  | _ => True

/-- What the answers say about who belongs to the cluster afterwards. -/
def TellsMembers (known : List Nat) : (c : interface.Call) → interface.Answer c → Prop
  | .add _ _, id => id ∈ known
  | .members, members => members.map Member.id = known
  | _, _ => True

/-- The protocol of a task that makes only such members leader as it has just met. -/
def electing : Protocol interface (List Nat) where
  Permits := NamesMember
  Follows _ c a known := TellsMembers known c a

/-- Tasks know the members of the cluster after their last turn. -/
def electingReliance : Reliance changesOf (List Nat) where
  protocol :=
    { Permits := fun known c ↦
        match c with
        | .cluster c => NamesMember known c
        | _ => True
      Follows := fun _ c a known ↦
        match c, a with
        | .cluster c, a => TellsMembers known c a
        | _, _ => True }
  knows turns := (turns.getLast?.map fun turn ↦ turn.2.cluster.ids).getD []
  Safe _ := True
  Result _ _ := True

end Cluster

namespace Engine

open Cluster (electing)

variable {α β : Type} {known : List Nat}

/-- The action makes only such members leader as it has just met. -/
def Elects (p : ClusterAction α) (known : List Nat) : Prop :=
  p.Meets electing (fun _ ↦ True) (fun _ _ ↦ True) known

/-- Whatever the task knows after the first action, the second may go on from it. -/
theorem Elects.bind {p : ClusterAction α} {f : α → ClusterAction β} (hp : Elects p known)
    (hf : ∀ a known, Elects (f a) known) : Elects (p >>= f) known :=
  Action.Meets.andThen hp (fun a known _ ↦ hf a known) fun _ _ _ ↦ trivial

theorem elects_ofResult (result : Except Error α) : Elects (ofResult result) known := trivial

/-- Calls that make nobody leader. -/
theorem elects_ask (c : Cluster.interface.Call) (hnames : ∀ known, Cluster.NamesMember known c) :
    Elects (ask c) known :=
  ⟨trivial, hnames known, fun _ _ _ ↦ trivial⟩

theorem elects_add {address : String} {role : Role} {f : Nat → ClusterAction β}
    (hf : ∀ id known, id ∈ known → Elects (f id) known) : Elects (add address role >>= f) known := by
  apply Action.Meets.bind
  exact ⟨trivial, trivial, hf⟩

theorem elects_members {f : List Member → ClusterAction β}
    (hf : ∀ found, Elects (f found) (found.map Member.id)) : Elects (members >>= f) known := by
  apply Action.Meets.bind
  refine ⟨trivial, trivial, ?_⟩
  rintro found _ rfl
  exact hf found

theorem elects_setLeader {id : Nat} (hknown : id ∈ known) : Elects (setLeader (some id)) known :=
  ⟨trivial, hknown, fun _ _ _ ↦ trivial⟩

theorem elects_remove (id : Nat) : Elects (remove id) known :=
  ⟨trivial, trivial, fun _ _ _ ↦ trivial⟩

end Engine

namespace Cluster

open Engine (Elects elects_add elects_ask elects_members elects_ofResult elects_remove
  elects_setLeader)

variable {known : List Nat}

theorem elects_join (o : Node.Options) : Elects (Node.join o) known := by
  apply (elects_ask .isEmpty fun _ ↦ trivial).bind
  intro empty known
  cases empty with
  | true =>
    apply elects_add
    intro id known hid
    exact (elects_setLeader hid).bind fun _ _ ↦ trivial
  | false =>
    apply elects_members
    intro found
    split
    · exact elects_ask (.add o.address .spare) fun _ ↦ trivial
    · trivial

theorem elects_elect : Elects Node.elect known := by
  apply (elects_ask .leaderId fun _ ↦ trivial).bind
  intro leader known
  cases leader with
  | some id => trivial
  | none =>
    apply elects_members
    intro found
    split
    case h_1 m hfound =>
      exact elects_setLeader (List.mem_map_of_mem (List.mem_of_find?_eq_some hfound))
    case h_2 => trivial

theorem elects_rebalance (voters standbys : Nat) :
    Elects (Node.rebalance voters standbys) known :=
  (elects_ask (.adjustRoles voters standbys) fun _ ↦ trivial).bind fun _ _ ↦ elects_elect

theorem elects_handover (id : Option Nat) : Elects (Node.handover id) known := by
  cases id with
  | none => trivial
  | some id =>
    apply (elects_ask .leaderId fun _ ↦ trivial).bind
    intro leader known
    split
    · exact (elects_ask (.transferLeadership id) fun _ ↦ trivial).bind fun _ _ ↦ trivial
    · trivial

theorem elects_connect : Elects Membership.connect known := by
  apply (elects_ask .isEmpty fun _ ↦ trivial).bind
  intro empty known
  cases empty <;> trivial

theorem elects_removeById (id : Nat) : Elects (Membership.removeById id) known :=
  elects_connect.bind fun _ _ ↦ elects_remove id

theorem elects_removeByName (directory : Membership.Directory) (name : String) :
    Elects (Membership.remove directory name) known := by
  have hmembers (known : List Nat) : Elects Membership.allMembers known :=
    elects_connect.bind fun _ _ ↦ elects_ask .members fun _ ↦ trivial
  apply (hmembers known).bind
  intro found known
  exact (elects_ofResult _).bind fun id _ ↦ elects_remove id

/-! ## Interleavings -/

section Interleavings

variable {service : Service} {p : Pool changesOf}

theorem electingReliance_holds (service : Service) : electingReliance.Holds service where
  start := trivial
  serve r := by
    have honCluster {α : Type} {p : Engine.ClusterAction α} (hp : Elects p []) :
        (Service.onCluster p).run.Meets electingReliance.protocol (fun _ ↦ True)
          (fun _ _ ↦ True) [] := by
      apply Action.Meets.interpret ?_ hp
      intro c known _ hnames
      exact ⟨trivial, hnames, fun _ _ htells ↦ htells⟩
    cases r with
    | join o => exact honCluster (elects_join o)
    | rebalance voters standbys => exact honCluster (elects_rebalance voters standbys)
    | handover id => exact honCluster (elects_handover id)
    | remove id => exact honCluster (elects_removeById id)
    | removeByName directory name => exact honCluster (elects_removeByName directory name)
  answer p task c _ _ _ _ _ := by
    refine ⟨?_, trivial⟩
    cases c with
    | cluster c =>
      simp only [electingReliance, List.getLast?_concat, Option.map_some, Option.getD_some]
      cases c with
      | add address role => exact mem_ids_add p.service.cluster address role
      | members => rfl
      | _ => trivial
    | _ => trivial
  release _ _ _ := trivial

/-- What has overtaken a task has overtaken it for good. -/
theorem Overtaken.append {turns : List (Service × Service)} (hovertaken : Overtaken turns)
    (more : List (Service × Service)) : Overtaken (turns ++ more) := by
  obtain ⟨first, s₁, s₁', s₂, s₂', last, id, rfl, hknown⟩ := hovertaken
  refine ⟨first, s₁, s₁', s₂, s₂', last ++ more, id, ?_, hknown⟩
  simp

/-- A leader that is no member has been made by a task that has been overtaken. -/
theorem Overtaken.not_led {turns : List (Service × Service)} (hovertaken : Overtaken turns) :
    ∃ turn ∈ turns, ¬ turn.2.cluster.Led := by
  obtain ⟨first, s₁, s₁', s₂, s₂', last, id, rfl, _, hgone, hset⟩ := hovertaken
  refine ⟨(s₂, s₂'), by simp, fun hled ↦ ?_⟩
  rw [hset] at hled
  exact hgone (hled id rfl)

/-- A task that makes a leader who is no member has been overtaken. -/
theorem overtaken_of_setLeader {turns : List (Service × Service)} {s : Service} {id : Nat}
    (hknown : id ∈ electingReliance.knows turns) (hgone : id ∉ s.cluster.ids) :
    Overtaken (turns ++ [(s, (Service.answer (.cluster (.setLeader (some id))) s).2)]) := by
  obtain rfl | ⟨first, ⟨s₁, s₁'⟩, rfl⟩ := List.eq_nil_or_concat turns
  · exact absurd hknown List.not_mem_nil
  · rw [List.concat_eq_append] at hknown ⊢
    simp only [electingReliance, List.getLast?_concat, Option.map_some, Option.getD_some] at hknown
    refine ⟨first, s₁, s₁', s, (Service.answer (.cluster (.setLeader (some id))) s).2, [], id, ?_,
      hknown, hgone, rfl⟩
    rw [List.append_assoc, List.singleton_append]

theorem cluster_release (s : Service) (t : Option Store.Ticket) : (s.release t).cluster = s.cluster := by
  cases t <;> rfl

/-- A turn that does not overtake its task leaves a leader who is a member. -/
theorem Led.turn (hled : p.service.cluster.Led) (hreach : p.Reachable service)
    {task : Task changesOf} (htask : task ∈ p.running) {s' : Service}
    (hmove : (∃ c, task.rest.call? = some c ∧ s' = (Service.answer c p.service).2) ∨
      ∃ t, s' = p.service.release t)
    (hclear : ¬ Overtaken (task.turns ++ [(p.service, s')])) : s'.cluster.Led := by
  obtain ⟨c, hcall, rfl⟩ | ⟨t, rfl⟩ := hmove
  · have hrelies := (hreach.relies (electingReliance_holds service)).running task htask
    have hpermits := hrelies.permits hcall
    cases c with
    | cluster c =>
      apply hled.answer c
      rintro id rfl
      by_contra hgone
      exact hclear (overtaken_of_setLeader hpermits hgone)
    | _ => exact hled
  · rw [cluster_release]
    exact hled

/-- While no task has been overtaken, the leader has always been a member. -/
theorem led_of_not_overtaken (hled : service.cluster.Led) (hreach : p.Reachable service)
    (hclear : ∀ turns ∈ p.turns, ¬ Overtaken turns) :
    p.service.cluster.Led ∧ ∀ turns ∈ p.turns, ∀ turn ∈ turns, turn.2.cluster.Led := by
  induction hreach with
  | start => exact ⟨hled, fun turns hmem ↦ absurd hmem List.not_mem_nil⟩
  | @step p p' hreach hstep ih =>
    obtain ⟨hservice, hturns⟩ | ⟨task, htask, rest, hbefore, hafter, hmove⟩ := hstep.turns
    · obtain ⟨hcurrent, hpast⟩ :=
        ih fun turns hmem ↦ hclear turns (hturns.mem_iff.2 (List.mem_cons_of_mem [] hmem))
      refine ⟨hservice ▸ hcurrent, fun turns hmem ↦ ?_⟩
      obtain rfl | hold := List.mem_cons.1 (hturns.mem_iff.1 hmem)
      · exact fun turn hturn ↦ absurd hturn List.not_mem_nil
      · exact hpast turns hold
    · have hself : ¬ Overtaken (task.turns ++ [(p.service, p'.service)]) :=
        hclear _ (hafter.mem_iff.2 List.mem_cons_self)
      have hothers (turns) (hmem : turns ∈ rest) : turns ∈ p'.turns :=
        hafter.mem_iff.2 (List.mem_cons_of_mem _ hmem)
      -- A task that was overtaken before the step would still be so after it.
      obtain ⟨hcurrent, hpast⟩ := ih (by
        intro turns hmem hovertaken
        obtain rfl | hother := List.mem_cons.1 (hbefore.mem_iff.1 hmem)
        · exact hself (hovertaken.append _)
        · exact hclear turns (hothers turns hother) hovertaken)
      have hnext : p'.service.cluster.Led := hcurrent.turn hreach htask hmove hself
      refine ⟨hnext, fun turns hmem turn hturn ↦ ?_⟩
      obtain rfl | hother := List.mem_cons.1 (hafter.mem_iff.1 hmem)
      · obtain hold | hnew := List.mem_append.1 hturn
        · exact hpast _ (hbefore.mem_iff.2 List.mem_cons_self) turn hold
        · obtain rfl := List.mem_singleton.1 hnew
          exact hnext
      · exact hpast turns (hbefore.mem_iff.2 (List.mem_cons_of_mem _ hother)) turn hturn

/-- The leader is a member at every moment exactly if no task is overtaken by a removal. -/
structure LedUnlessOvertaken (p : Pool changesOf) : Prop where
  always : (∀ turns ∈ p.turns, ∀ turn ∈ turns, turn.2.cluster.Led) ↔
    ∀ turns ∈ p.turns, ¬ Overtaken turns
  current : p.service.cluster.Led ∨ ∃ turns ∈ p.turns, Overtaken turns
  /-- No round makes up for a leader who is no member. -/
  lasting : ¬ p.service.cluster.Led → ∀ voters standbys,
    ((Node.rebalance voters standbys).run.run answer p.service.cluster).2.leader =
      p.service.cluster.leader

theorem led_unless_overtaken (hled : service.cluster.Led) (hreach : p.Reachable service) :
    LedUnlessOvertaken p := by
  constructor
  case always =>
    constructor
    · intro hall turns hmem hovertaken
      obtain ⟨turn, hturn, hdangling⟩ := hovertaken.not_led
      exact hdangling (hall turns hmem turn hturn)
    · exact fun hclear ↦ (led_of_not_overtaken hled hreach hclear).2
  case current =>
    by_contra hneither
    rw [not_or] at hneither
    apply hneither.1
    exact (led_of_not_overtaken hled hreach fun turns hmem h ↦ hneither.2 ⟨turns, hmem, h⟩).1
  case lasting =>
    intro hdangling voters standbys
    cases hleader : p.service.cluster.leader with
    | none => exact absurd (fun id hid ↦ nomatch hleader.symm.trans hid) hdangling
    | some id =>
      rw [rebalance_of_leader hleader]
      exact hleader

/-- A join of a node that nothing else is said about. -/
def joinOf (address : String) : Choice changesOf :=
  .start (Request.join (.standard address))

/-- One node bootstraps the cluster and another joins it; the second is promoted, the first hands
over and is removed. -/
def orderly : Option (Pool changesOf) :=
  (Pool.idle (.fresh 0)).run
    [joinOf "10.0.0.1:8081", joinOf "10.0.0.2:8081", .advance 0, .advance 0, .advance 1, .advance 0,
      .advance 0, .advance 0, .start (Request.rebalance 3 0), .start (Request.handover (some 1)),
      .advance 0, .advance 1, .advance 0, .advance 0, .start (Request.remove 1), .advance 0, .advance 0]

theorem led_unless_overtaken_orderly :
    ∃ p, orderly = some p ∧ p.service.cluster.leader = some 2 ∧ LedUnlessOvertaken p := by
  obtain ⟨p, hp⟩ := Option.isSome_iff_exists.1 (by decide +kernel : orderly.isSome = true)
  have hleader : orderly.map (·.service.cluster.leader) = some (some 2) := by decide +kernel
  rw [hp] at hleader
  exact ⟨p, hp, Option.some.inj hleader, led_unless_overtaken led_empty (Pool.Reachable.start.run hp)⟩

/-- A node that bootstraps the cluster is removed before it makes itself leader, while another has
joined. -/
def interrupted : Option (Pool changesOf) :=
  (Pool.idle (.fresh 0)).run
    [joinOf "10.0.0.1:8081", joinOf "10.0.0.2:8081", .advance 0, .advance 0, .advance 1, .advance 1,
      .advance 1, .start (Request.remove 1), .advance 1, .advance 1, .advance 0,
      .start (Request.rebalance 3 0), .advance 0, .advance 0]

/-- Its id is left as that of the leader, and the round that follows does not elect the voter that
is there. -/
theorem not_led_interrupted :
    ∃ p : Pool changesOf, p.Reachable (.fresh 0) ∧
      p.service.cluster = ⟨[⟨2, "10.0.0.2:8081", .voter⟩], some 1, 2⟩ ∧
      ¬ p.service.cluster.Led := by
  obtain ⟨p, hp⟩ := Option.isSome_iff_exists.1 (by decide +kernel : interrupted.isSome = true)
  have hcluster : interrupted.map (·.service.cluster) =
      some ⟨[⟨2, "10.0.0.2:8081", .voter⟩], some 1, 2⟩ := by
    decide +kernel
  rw [hp] at hcluster
  have hsame : p.service.cluster = ⟨[⟨2, "10.0.0.2:8081", .voter⟩], some 1, 2⟩ :=
    Option.some.inj hcluster
  refine ⟨p, Pool.Reachable.start.run hp, hsame, ?_⟩
  rw [hsame]
  decide

end Interleavings

end Cluster

end Turnstile
