import Turnstile.Proofs.Cluster.Numbering
import Turnstile.Proofs.Tasks.Course

/-!
# Removals by name among other changes

A removal by name reads the members at one turn and removes an id at a later one, and anything can
happen to the cluster in between.  An id names one stay of a node in the cluster: it is never given
again, not even to a node at the same address.  So a removal hits the stay that it has matched or
none, and of several that have matched the same stay at most one succeeds.
-/

namespace Turnstile.Cluster

/-- Removals by name, and other tasks on the same service. -/
def removals {ι : Type} (others : ι → Activity Service.interface Unit) : Workload where
  Request := (Membership.Directory × String) ⊕ ι
  Result := Sum.elim (fun _ ↦ Except Error Unit) fun _ ↦ Unit
  serve
    | .inl (d, name) => .run (Service.onCluster (Membership.remove d name)).run
    | .inr i => others i

/-- The id of the member that a name with white space around it stands for. -/
def matched (d : Membership.Directory) (name : String) (members : List Member) : Except Error Nat :=
  Membership.select d (String.ofList (Text.trim name.toList)) members

/-- What a removal by name comes to. -/
inductive Removal (d : Membership.Directory) (name : String) :
    Except Error Unit → List (Service × Service) → Prop where
  /-- There is nobody to ask. -/
  | unasked {s₀ : Service} (hempty : s₀.cluster.members = []) :
      Removal d name (.error Membership.noLeaderServer) [(s₀, s₀)]
  /-- When the members are read, the name stands for none of them. -/
  | unmatched {s₀ s₁ : Service} {e : Error}
      (hmatched : matched d name s₁.cluster.members = .error e) :
      Removal d name (.error e) [(s₀, s₀), (s₁, s₁)]
  /-- The member that the name stood for is gone. -/
  | late {s₀ s₁ s₂ : Service} {id : Nat} (hmatched : matched d name s₁.cluster.members = .ok id)
      (hgone : id ∉ s₂.cluster.ids) :
      Removal d name (.error (notAMember id)) [(s₀, s₀), (s₁, s₁), (s₂, s₂)]
  /-- The member that the name stood for is removed, still at the same address. -/
  | hit {s₀ s₁ s₂ s₂' : Service} {m m' : Member} {before after : List Member}
      (hmatched : matched d name s₁.cluster.members = .ok m.id) (hm : m ∈ s₁.cluster.members)
      (hmembers : s₂.cluster.members = before ++ m' :: after) (hid : m'.id = m.id)
      (haddress : m'.address = m.address)
      (hremoved : s₂'.cluster = s₂.cluster.without before after m.id) :
      Removal d name (.ok ()) [(s₀, s₀), (s₁, s₁), (s₂, s₂')]

/-- Tasks find the members numbered, and whom they have found before under the same ids. -/
def Settled (turns : List (Service × Service)) (_ : Service.interface.Call) (s : Service) : Prop :=
  s.cluster.Numbered ∧ ∀ turn ∈ turns, turn.2.cluster.Precedes s.cluster

theorem matched_eq_ok {d : Membership.Directory} {name : String} {members : List Member} {id : Nat}
    (hmatched : matched d name members = .ok id) : ∃ m ∈ members, m.id = id := by
  unfold matched Membership.select at hmatched
  split at hmatched
  case h_1 => cases hmatched
  case h_2 ip hforward =>
    split at hmatched
    case h_1 m hfound => exact ⟨m, List.mem_of_find?_eq_some hfound, Except.ok.inj hmatched⟩
    case h_2 => cases hmatched

/-- From the turn at which the members are read. -/
theorem meets_removal (d : Membership.Directory) (name : String) {s₀ s₁ : Service}
    (hnumbered : s₁.cluster.Numbered) {selected : Except Error Nat}
    (hmatched : matched d name s₁.cluster.members = selected) :
    (Service.onCluster (Engine.ofResult selected >>= Engine.remove)).run.Meets
      (remembering Settled) (fun _ ↦ True) (Removal d name) [(s₀, s₀), (s₁, s₁)] := by
  cases selected with
  | error e => exact .unmatched hmatched
  | ok id =>
    refine ⟨trivial, trivial, ?_⟩
    rintro (removed : Except Error Unit) _ ⟨s₂, ⟨hnumbered₂, hprecedes⟩, hremoved, rfl⟩
    obtain ⟨m, hm, rfl⟩ := matched_eq_ok hmatched
    by_cases hstayed : m.id ∈ s₂.cluster.ids
    · obtain ⟨m', hm', hid⟩ := List.mem_map.1 hstayed
      obtain ⟨before, after, hmembers⟩ := List.append_of_mem hm'
      have hremove := hnumbered₂.remove_of_split hmembers
      have hlater : s₁.cluster.Precedes s₂.cluster := hprecedes (s₁, s₁) (by simp)
      rw [hid] at hremove
      obtain rfl : removed = .ok () := hremoved.trans (congrArg Prod.fst hremove)
      exact .hit hmatched hm hmembers hid (hlater.address hnumbered hm hm' hid.symm).symm
        (congrArg Prod.snd hremove)
    · have hremove := remove_of_notMem hstayed
      obtain rfl : removed = .error (notAMember m.id) := hremoved.trans (congrArg Prod.fst hremove)
      have hsame : (Service.answer (.cluster (.remove m.id)) s₂).2 = s₂ := by
        simp only [Service.answer, answer, hremove]
      rw [hsame]
      exact .late hmatched hstayed

theorem shows_remove (d : Membership.Directory) (name : String) :
    (Activity.run (Service.onCluster (Membership.remove d name)).run).Shows (remembering Settled)
      (Removal d name) [] := by
  refine ⟨trivial, trivial, ?_⟩
  rintro (empty : Bool) _ ⟨s₀, _, hempty, rfl⟩
  cases empty with
  | true => exact .unasked (List.isEmpty_iff.1 hempty.symm)
  | false =>
    refine ⟨trivial, trivial, ?_⟩
    rintro (found : List Member) _ ⟨s₁, ⟨hnumbered, _⟩, hfound, rfl⟩
    obtain rfl : found = s₁.cluster.members := hfound
    exact meets_removal d name hnumbered rfl

/-! ## Runs -/

section Runs

variable {ι : Type} {others : ι → Activity Service.interface Unit}
  {service : Service} {p p' : Pool (removals others)}

theorem succeeds_step {W : Workload} {p p' : Pool W} (hstep : Pool.Step p p') :
    p.service.cluster.Succeeds p'.service.cluster := by
  obtain ⟨_, _, c, _, hservice⟩ | ⟨t, hservice⟩ := hstep.service
  · rw [hservice]
    cases c with
    | cluster call => exact succeeds_answer call p.service.cluster
    | _ => exact .of_entries rfl rfl
  · rw [hservice, cluster_release]
    exact .of_entries rfl rfl

/-- Whatever the tasks are. -/
theorem precedes_lasts (W : Workload) (service : Service) :
    Pool.Lasts W service fun s s' ↦ s.cluster.Precedes s'.cluster where
  refl s := .refl s.cluster
  trans _ _ _ := .trans
  step _ _ _ hstep := .succeeds (succeeds_step hstep)

theorem numbered {W : Workload} {p : Pool W} (hempty : service.cluster = empty)
    (hreach : p.Reachable service) : p.service.cluster.Numbered := by
  induction hreach with
  | start => exact hempty ▸ numbered_empty
  | step _ hstep ih => exact ih.succeeds (succeeds_step hstep)

/-- The id that a removal has matched and removed. -/
def removed? : Outcome (removals others) → Option Nat
  | ⟨.inl (d, name), _, [_, (s₁, _), _], some (.ok _)⟩ =>
    (matched d name s₁.cluster.members).toOption
  | _ => none

theorem removal_of_ended (hempty : service.cluster = empty) (hreach : p.Reachable service)
    {d : Membership.Directory} {name : String} {since : Nat} {turns : List (Service × Service)}
    {result : Except Error Unit}
    (hended : (⟨.inl (d, name), since, turns, some result⟩ : Outcome (removals others)) ∈ p.ended) :
    Removal d name result turns := by
  let Result : (r : (removals others).Request) → (removals others).Result r →
      List (Service × Service) → Prop
    | .inl (d, name), result, turns => Removal d name result turns
    | .inr _, _, _ => True
  have hserve (r) : ((removals others).serve r).Shows (remembering Settled) (Result r) [] := by
    cases r with
    | inl request => exact shows_remove request.1 request.2
    | inr i => exact (others i).shows_any (fun _ _ ↦ trivial) (fun _ _ ↦ trivial) []
  have hfinds (p : Pool (removals others)) (task : Task (removals others))
      (c : Service.interface.Call) (hreach : p.Reachable service) (htask : task ∈ p.running)
      (_ : task.rest.call? = some c) : Settled task.turns c p.service :=
    ⟨numbered hempty hreach, (precedes_lasts _ service).running hreach htask⟩
  exact hreach.remembers hserve hfinds hended rfl

/-- The last turn of a removal that has succeeded. -/
theorem split_of_removed? (hempty : service.cluster = empty) (hreach : p.Reachable service)
    {o : Outcome (removals others)} (ho : o ∈ p.ended) {id : Nat} (hremoved : removed? o = some id) :
    ∃ first s s' m before after, o.turns = first ++ [(s, s')] ∧ m.id = id ∧
      s.cluster.members = before ++ m :: after ∧ s'.cluster = s.cluster.without before after id := by
  unfold removed? at hremoved
  split at hremoved
  case h_1 d name since turn₀ s₁ s₁' turn₂ _ =>
    have hremoval := removal_of_ended hempty hreach ho
    cases hremoval with
    | @hit s₀ _ s₂ s₂' m m' before after hmatched _ hmembers hid _ hwithout =>
      rw [hmatched] at hremoved
      obtain rfl : m.id = id := Option.some.inj hremoved
      exact ⟨[(s₀, s₀), (s₁, s₁)], s₂, s₂', m', before, after, rfl, hid, hmembers, hwithout⟩
  case h_2 => cases hremoved

/-- A removal that ends with a step has removed its member at that step. -/
theorem removed_by_step (hempty : service.cluster = empty) (hreach : p.Reachable service)
    (hstep : Pool.Step p p') {o : Outcome (removals others)} (ho : o ∈ p'.ended)
    (hturns : o.turns = [] ∨ ∃ first, o.turns = first ++ [(p.service, p'.service)]) {id : Nat}
    (hremoved : removed? o = some id) : id ∈ p.service.cluster.ids ∧ id ∉ p'.service.cluster.ids := by
  obtain ⟨first, s, s', m, before, after, hlast, rfl, hmembers, hwithout⟩ :=
    split_of_removed? hempty (hreach.step hstep) ho hremoved
  obtain ⟨rfl, rfl⟩ : s = p.service ∧ s' = p'.service := by
    obtain hnone | ⟨earlier, hstepped⟩ := hturns
    · simp [hlast] at hnone
    · have hturn := List.append_inj_right' (hlast.symm.trans hstepped) rfl
      exact Prod.mk.inj (List.singleton_inj.1 hturn)
  have hnot : m.id ∉ p'.service.cluster.ids :=
    hwithout ▸ (numbered hempty hreach).notMem_without hmembers
  exact ⟨by simp [ids, hmembers], hnot⟩

/-- No two removals have removed the same id, and each id that they have removed is gone. -/
theorem removed_once (hempty : service.cluster = empty) (hreach : p.Reachable service) :
    (p.ended.filterMap removed?).Nodup ∧ ∀ id ∈ p.ended.filterMap removed?,
      id ≤ p.service.cluster.lastId ∧ id ∉ p.service.cluster.ids := by
  induction hreach with
  | start => exact ⟨.nil, nofun⟩
  | @step p p' hreach hstep ih =>
    obtain ⟨hnodup, hgone⟩ := ih
    have hprecedes : p.service.cluster.Precedes p'.service.cluster := .succeeds (succeeds_step hstep)
    have hstays : ∀ id ∈ p.ended.filterMap removed?,
        id ≤ p'.service.cluster.lastId ∧ id ∉ p'.service.cluster.ids := by
      intro id hid
      obtain ⟨hgiven, hnot⟩ := hgone id hid
      exact ⟨Nat.le_trans hgiven hprecedes.lastId, hprecedes.notMem hgiven hnot⟩
    obtain hsame | ⟨o, hended, hturns⟩ := hstep.ended
    · rw [hsame]
      exact ⟨hnodup, hstays⟩
    · rw [hended, List.filterMap_append]
      cases hremoved : removed? o with
      | none =>
        rw [List.filterMap_cons_none hremoved, List.filterMap_nil, List.append_nil]
        exact ⟨hnodup, hstays⟩
      | some id =>
        rw [List.filterMap_cons_some hremoved, List.filterMap_nil]
        have ho : o ∈ p'.ended := by simp [hended]
        obtain ⟨hmem, hnot⟩ := removed_by_step hempty hreach hstep ho hturns hremoved
        have hgiven : id ≤ p.service.cluster.lastId := (numbered hempty hreach).given id hmem
        -- The id was there just before, so no earlier removal has removed it.
        have hnew : id ∉ p.ended.filterMap removed? := fun hid ↦ (hgone id hid).2 hmem
        refine ⟨?_, List.forall_mem_append.2 ⟨hstays, List.forall_mem_singleton.2 ?_⟩⟩
        · exact List.nodup_append_comm.1 (List.nodup_cons.2 ⟨hnew, hnodup⟩)
        · exact ⟨Nat.le_trans hgiven hprecedes.lastId, hnot⟩

/-- Ids name stays, and removals by name hit the stays that they have matched. -/
structure Incarnations (p : Pool (removals others)) : Prop where
  increasing : p.service.cluster.ids.Pairwise (· < ·)
  addresses : (p.service.cluster.members.map Member.address).Nodup
  /-- An id stands for one address for good. -/
  address : ∀ p', p.Later p' → ∀ m ∈ p.service.cluster.members, ∀ m' ∈ p'.service.cluster.members,
    m.id = m'.id → m.address = m'.address
  /-- An id that was a member's does not come back. -/
  gone : ∀ p', p.Later p' → ∀ p'', p'.Later p'' → ∀ id ∈ p.service.cluster.ids,
    id ∉ p'.service.cluster.ids → id ∉ p''.service.cluster.ids
  removal : ∀ d name since turns, ∀ result : Except Error Unit,
    (⟨.inl (d, name), since, turns, some result⟩ : Outcome (removals others)) ∈ p.ended →
      Removal d name result turns
  once : (p.ended.filterMap removed?).Nodup

/-- Whatever happens to the cluster in between. -/
theorem incarnations (hempty : service.cluster = empty) (hreach : p.Reachable service) :
    Incarnations p := by
  have hnumbered := numbered hempty hreach
  constructor
  case increasing => exact hnumbered.increasing
  case addresses => exact hnumbered.addresses
  case address =>
    intro p' hlater m hm m' hm' hid
    exact ((precedes_lasts _ service).later hreach hlater).address hnumbered hm hm' hid
  case gone =>
    intro p' hlater p'' hlater' id hid hgone
    have hfirst := (precedes_lasts _ service).later hreach hlater
    have hsecond := (precedes_lasts _ service).later (hreach.later hlater) hlater'
    exact hsecond.notMem (Nat.le_trans (hnumbered.given id hid) hfirst.lastId) hgone
  case removal => exact fun d name since turns result ho ↦ removal_of_ended hempty hreach ho
  case once => exact (removed_once hempty hreach).1

/-- A task that makes one call on the cluster. -/
def calling (c : Cluster.interface.Call) : Activity Service.interface Unit :=
  .run (.call (.cluster c) fun _ ↦ .done ())

/-- Two removals match the same stay of a node.  One of them removes it, the node is added again, and
the other comes too late. -/
def overtaking : Option (Pool (removals calling)) :=
  let other (c : Cluster.interface.Call) : Choice (removals calling) := .start (Sum.inr c)
  let removal : Choice (removals calling) :=
    .start (Sum.inl (⟨.ofTable [("10.0.0.1", "a")], 1⟩, " a"))
  (Pool.idle (Service.fresh 0)).run
    [other (.add "10.0.0.1:1" .voter), .advance 0, removal, .advance 0, .advance 0, removal,
      .advance 1, .advance 1, .advance 1, other (.add "10.0.0.1:1" .spare), .advance 1, .advance 0]

theorem incarnations_overtaking :
    ∃ p, overtaking = some p ∧ p.service.cluster = ⟨[⟨2, "10.0.0.1:1", .spare⟩], none, 2⟩ ∧
      p.ended.map (fun o ↦ o.turns.length) = [1, 3, 1, 3] ∧ p.ended.filterMap removed? = [1] ∧
      Incarnations p := by
  have hovertaking : overtaking.map (fun p ↦
      (p.service.cluster, p.ended.map (fun o ↦ o.turns.length), p.ended.filterMap removed?)) =
        some (⟨[⟨2, "10.0.0.1:1", .spare⟩], none, 2⟩, [1, 3, 1, 3], [1]) := by
    decide +kernel
  obtain ⟨p, hp, hfound⟩ := Option.map_eq_some_iff.1 hovertaking
  obtain ⟨hcluster, hturns, hremoved⟩ :
      p.service.cluster = ⟨[⟨2, "10.0.0.1:1", .spare⟩], none, 2⟩ ∧
        p.ended.map (fun o ↦ o.turns.length) = [1, 3, 1, 3] ∧ p.ended.filterMap removed? = [1] := by
    simpa only [Prod.mk.injEq] using hfound
  have hincarnations : Incarnations p := incarnations rfl (Pool.Reachable.start.run hp)
  exact ⟨p, hp, hcluster, hturns, hremoved, hincarnations⟩

end Runs

end Turnstile.Cluster
