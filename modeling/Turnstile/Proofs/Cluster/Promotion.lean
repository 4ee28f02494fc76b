import Mathlib.Data.List.Sort
import Turnstile.Proofs.Cluster.Numbering

/-!
# Who is promoted

A promotion goes through the members once, and the counts that it goes by change on the way.  A spare
has its turn to become a stand-by only when there are enough voters, so it is two passes, one after
the other: the first members that are no voters become voters, then the first spares that are left
become stand-bys.
-/

namespace Turnstile

/-- How much a role takes part. -/
def Role.rank : Role → Nat
  | spare => 0
  | standBy => 1
  | voter => 2

theorem Role.rank_le_voter (role : Role) : role.rank ≤ Role.voter.rank := by
  cases role <;> decide

namespace Cluster

/-- Where members have a role. -/
def places (role : Role) (members : List Member) : List Nat :=
  members.findIdxs (·.role = role)

/-- The places of the first members that are no voters, as many as voters are missing. -/
def promoted (voters : Nat) (members : List Member) : List Nat :=
  (members.findIdxs (·.role ≠ .voter)).take (voters - (places .voter members).length)

/-- The places of the stand-bys that become no voters. -/
def retained (voters : Nat) (members : List Member) : List Nat :=
  (places .standBy members).filter (· ∉ promoted voters members)

/-- The places of the first spares that become no voters, as many as stand-bys are missing then. -/
def raised (voters standbys : Nat) (members : List Member) : List Nat :=
  ((places .spare members).filter (· ∉ promoted voters members)).take
    (standbys - (retained voters members).length)

/-- A promotion that stops where its count of stand-bys would fall below zero. -/
def promote? (voters standbys voterCount standbyCount : Nat) : List Member → Option (List Member)
  | [] => some []
  | m :: rest =>
    if voterCount < voters ∧ m.role ≠ .voter then
      if m.role = .standBy ∧ standbyCount = 0 then none
      else
        (promote? voters standbys (voterCount + 1)
          (if m.role = .standBy then standbyCount - 1 else standbyCount) rest).map
          ({ m with role := .voter } :: ·)
    else if standbyCount < standbys ∧ m.role = .spare then
      (promote? voters standbys voterCount (standbyCount + 1) rest).map
        ({ m with role := .standBy } :: ·)
    else (promote? voters standbys voterCount standbyCount rest).map (m :: ·)

/-- The second cluster is the first after promotions that meet the targets, and nothing else. -/
structure Adjusted (voters standbys : Nat) (c c' : Cluster) : Prop where
  entries : c'.entries = c.entries
  leader : c'.leader = c.leader
  lastId : c'.lastId = c.lastId
  voterPlaces : ∀ i, i ∈ places .voter c'.members ↔
    i ∈ places .voter c.members ∨ i ∈ promoted voters c.members
  standByPlaces : ∀ i, i ∈ places .standBy c'.members ↔
    i ∈ retained voters c.members ∨ i ∈ raised voters standbys c.members
  sparePlaces : ∀ i, i ∈ places .spare c'.members ↔ i ∈ places .spare c.members ∧
    i ∉ promoted voters c.members ∧ i ∉ raised voters standbys c.members
  undemoted : List.Forall₂ (fun m m' ↦ m.role.rank ≤ m'.role.rank) c.members c'.members
  counted : promote? voters standbys (countRole .voter c.members) (countRole .standBy c.members)
    c.members = some c'.members
  stable : c'.adjustRoles voters standbys = c'
  sufficient : c.members.length ≤ voters + standbys → places .spare c'.members = []

variable {p : Role → Bool} {role other : Role} {members : List Member} {n i : Nat}

theorem mem_places : i ∈ places role members ↔ ∃ m, members[i]? = some m ∧ m.role = role := by
  unfold places
  rw [List.mem_findIdxs_iff_exists_getElem_pos]
  constructor
  · rintro ⟨hi, hrole⟩
    exact ⟨_, List.getElem?_eq_getElem hi, of_decide_eq_true hrole⟩
  · rintro ⟨m, hm, hrole⟩
    obtain ⟨hi, rfl⟩ := List.getElem?_eq_some_iff.1 hm
    exact ⟨hi, decide_eq_true hrole⟩

theorem length_places (role : Role) (members : List Member) :
    (places role members).length = countRole role members :=
  List.length_findIdxs

/-! ## One pass -/

/-- Gives a role to the first `n` members whose own is among some. -/
def assign (p : Role → Bool) (role : Role) : Nat → List Member → List Member
  | 0, members => members
  | _ + 1, [] => []
  | n + 1, m :: rest =>
    if p m.role then { m with role } :: assign p role n rest else m :: assign p role (n + 1) rest

/-- The places of the first `n` members whose role is among some. -/
def chosen (p : Role → Bool) (n : Nat) (members : List Member) : List Nat :=
  (members.findIdxs fun m ↦ p m.role).take n

theorem assign_nil (p : Role → Bool) (role : Role) (n : Nat) : assign p role n [] = [] := by
  cases n <;> rfl

theorem assign_cons_of_not (role : Role) (n : Nat) {m : Member} (hrole : p m.role = false)
    (rest : List Member) : assign p role n (m :: rest) = m :: assign p role n rest := by
  cases n with
  | zero => rw [assign, assign]
  | succ n => rw [assign, hrole, if_neg Bool.false_ne_true]

theorem getElem?_assign_start (p : Role → Bool) (role : Role) (n : Nat) (members : List Member)
    (i start : Nat) :
    (assign p role n members)[i]? = members[i]?.map fun m ↦
      if i + start ∈ (members.findIdxs (fun m ↦ p m.role) start).take n then { m with role }
      else m := by
  induction members generalizing n i start with
  | nil =>
    rw [assign_nil]
    rfl
  | cons m rest ih =>
    have hlater (y : Nat) (hy : y ∈ rest.findIdxs (fun m ↦ p m.role) (start + 1)) : y ≠ start :=
      fun heq ↦ absurd (List.ge_of_mem_findIdxs y hy) (by omega)
    rw [List.findIdxs_cons]
    cases hrole : p m.role with
    | false =>
      rw [assign_cons_of_not role n hrole]
      simp only [Bool.false_eq_true, if_false]
      cases i with
      | zero =>
        have hout : ¬ 0 + start ∈ (rest.findIdxs (fun m ↦ p m.role) (start + 1)).take n :=
          fun hmem ↦ hlater _ (List.mem_of_mem_take hmem) (Nat.zero_add start)
        rw [List.getElem?_cons_zero, List.getElem?_cons_zero, Option.map_some, if_neg hout]
      | succ i =>
        have hplace : i + 1 + start = i + (start + 1) := by omega
        rw [hplace]
        exact ih n i (start + 1)
    | true =>
      cases n with
      | zero => simp [assign]
      | succ n =>
        rw [assign, if_pos hrole, if_pos rfl, List.take_succ_cons]
        cases i with
        | zero => simp
        | succ i =>
          have hplace : i + 1 + start = i + (start + 1) := by omega
          have hne : i + (start + 1) ≠ start := by omega
          simp only [hplace, List.mem_cons, hne, false_or]
          exact ih n i (start + 1)

/-- A pass changes the members that are chosen for it, and no others. -/
theorem getElem?_assign (p : Role → Bool) (role : Role) (n : Nat) (members : List Member)
    (i : Nat) : (assign p role n members)[i]? = members[i]?.map fun m ↦
      if i ∈ chosen p n members then { m with role } else m :=
  getElem?_assign_start p role n members i 0

theorem exists_of_mem_chosen (hchosen : i ∈ chosen p n members) :
    ∃ m, members[i]? = some m ∧ p m.role := by
  obtain ⟨hi, hrole⟩ := List.mem_findIdxs_iff_exists_getElem_pos.1 (List.mem_of_mem_take hchosen)
  exact ⟨_, List.getElem?_eq_getElem hi, hrole⟩

theorem mem_places_assign : i ∈ places role (assign p role n members) ↔
    i ∈ places role members ∨ i ∈ chosen p n members := by
  rw [mem_places, mem_places, getElem?_assign]
  by_cases hchosen : i ∈ chosen p n members
  · obtain ⟨m, hm, _⟩ := exists_of_mem_chosen hchosen
    simp [hchosen, hm]
  · simp [hchosen]

/-- Who has another role keeps it if not chosen. -/
theorem places_assign_of_ne (hother : other ≠ role) (n : Nat) (members : List Member) :
    places other (assign p role n members) =
      (places other members).filter (· ∉ chosen p n members) := by
  apply List.Pairwise.eq_of_mem_iff List.pairwise_findIdxs (List.pairwise_findIdxs.filter _)
  intro i
  rw [List.mem_filter, decide_eq_true_iff]
  change i ∈ places _ _ ↔ i ∈ places _ _ ∧ _
  rw [mem_places, mem_places, getElem?_assign]
  by_cases hchosen : i ∈ chosen p n members
  · obtain ⟨m, hm, _⟩ := exists_of_mem_chosen hchosen
    simp [hchosen, hm, hother.symm]
  · simp [hchosen]

theorem places_assign_of_not (hother : other ≠ role) (hrole : p other = false) (n : Nat)
    (members : List Member) : places other (assign p role n members) = places other members := by
  rw [places_assign_of_ne hother, List.filter_eq_self]
  intro i hi
  obtain ⟨m, hm, rfl⟩ := mem_places.1 hi
  refine decide_eq_true fun hchosen ↦ ?_
  obtain ⟨m', hm', hrole'⟩ := exists_of_mem_chosen hchosen
  rw [hm] at hm'
  obtain rfl := Option.some.inj hm'
  exact absurd (hrole.symm.trans hrole') Bool.false_ne_true

theorem countRole_cons (role : Role) (m : Member) (rest : List Member) :
    countRole role (m :: rest) = countRole role rest + if m.role = role then 1 else 0 := by
  unfold countRole
  rw [List.countP_cons]
  simp only [decide_eq_true_iff]

theorem countRole_cons_of_ne {m : Member} (hne : m.role ≠ role) (rest : List Member) :
    countRole role (m :: rest) = countRole role rest := by
  rw [countRole_cons, if_neg hne, Nat.add_zero]

/-- A pass without anybody to choose changes nothing. -/
theorem assign_of_forall_not (role : Role) (n : Nat) (hnobody : ∀ m ∈ members, p m.role = false) :
    assign p role n members = members := by
  induction members with
  | nil => exact assign_nil p role n
  | cons m rest ih =>
    obtain ⟨hm, hrest⟩ := List.forall_mem_cons.1 hnobody
    rw [assign_cons_of_not role n hm, ih hrest]

/-- The role has as many members as it should, or nobody is left to get it. -/
def Met (p : Role → Bool) (role : Role) (target : Nat) (members : List Member) : Prop :=
  target ≤ countRole role members ∨ ∀ m ∈ members, p m.role = false

theorem Met.assign_eq {target : Nat} (hmet : Met p role target members) :
    assign p role (target - countRole role members) members = members := by
  cases hmet with
  | inl henough => rw [Nat.sub_eq_zero_of_le henough, assign]
  | inr hnobody => exact assign_of_forall_not role _ hnobody

theorem met_assign_add (hrole : p role = false) (n : Nat) (members : List Member) :
    Met p role (countRole role members + n) (assign p role n members) := by
  induction members generalizing n with
  | nil =>
    rw [assign_nil]
    exact .inr (List.forall_mem_nil _)
  | cons m rest ih =>
    cases hm : p m.role with
    | false =>
      rw [assign_cons_of_not role n hm, Met, countRole_cons, countRole_cons, Nat.add_right_comm]
      cases ih n with
      | inl henough => exact .inl (Nat.add_le_add_right henough _)
      | inr hnobody => exact .inr (List.forall_mem_cons.2 ⟨hm, hnobody⟩)
    | true =>
      cases n with
      | zero =>
        rw [assign]
        exact .inl (Nat.le_refl _)
      | succ n =>
        have hne : m.role ≠ role := fun heq ↦ absurd (heq ▸ hm) (by simp [hrole])
        rw [assign, if_pos hm, Met, countRole_cons, countRole_cons, if_neg hne, if_pos rfl]
        cases ih n with
        | inl henough => exact .inl (Nat.succ_le_succ henough)
        | inr hnobody => exact .inr (List.forall_mem_cons.2 ⟨hrole, hnobody⟩)

theorem met_assign (hrole : p role = false) (target : Nat) (members : List Member) :
    Met p role target (assign p role (target - countRole role members) members) := by
  cases met_assign_add hrole (target - countRole role members) members with
  | inl henough => exact .inl (by omega)
  | inr hnobody => exact .inr hnobody

/-! ## Two passes in one -/

variable {voters standbys voterCount standbyCount : Nat}

/-- The pass that makes voters. -/
def elevate (voters : Nat) (members : List Member) : List Member :=
  assign (· ≠ .voter) .voter (voters - countRole .voter members) members

/-- The pass that makes stand-bys. -/
def fill (standbys : Nat) (members : List Member) : List Member :=
  assign (· = .spare) .standBy (standbys - countRole .standBy members) members

/-- Once there are enough voters, only stand-bys are made. -/
theorem promote_of_le (henough : voters ≤ voterCount) (standbys standbyCount : Nat)
    (members : List Member) : promote voters standbys voterCount standbyCount members =
      assign (· = .spare) .standBy (standbys - standbyCount) members := by
  induction members generalizing standbyCount with
  | nil => rw [promote, assign_nil]
  | cons m rest ih =>
    rw [promote, if_neg fun h ↦ absurd h.1 (Nat.not_lt.2 henough)]
    by_cases hraise : standbyCount < standbys ∧ m.role = .spare
    · have hmissing : standbys - standbyCount = standbys - (standbyCount + 1) + 1 := by omega
      rw [if_pos hraise, hmissing, assign, if_pos (decide_eq_true hraise.2), ih]
    · rw [if_neg hraise, ih]
      by_cases hspare : m.role = .spare
      · have hfull : ¬ standbyCount < standbys := fun hless ↦ hraise ⟨hless, hspare⟩
        have hmissing : standbys - standbyCount = 0 := by omega
        rw [hmissing, assign, assign]
      · rw [assign_cons_of_not _ _ (decide_eq_false hspare)]

theorem fill_cons_voter {m : Member} (hvoter : m.role = .voter) (standbys : Nat)
    (rest : List Member) : fill standbys (m :: rest) = m :: fill standbys rest := by
  rw [fill, countRole_cons_of_ne (by simp [hvoter]), assign_cons_of_not _ _ (by simp [hvoter]),
    fill]

/-- As long as voters are missing no spare becomes a stand-by. -/
theorem promote_eq_assign (voters standbys voterCount : Nat) (members : List Member) :
    promote voters standbys voterCount (countRole .standBy members) members =
      fill standbys (assign (· ≠ .voter) .voter (voters - voterCount) members) := by
  -- Whoever has been passed so far is a voter, so the stand-bys that count are those to come.
  induction members generalizing voterCount with
  | nil =>
    rw [promote, assign_nil]
    exact (assign_nil ..).symm
  | cons m rest ih =>
    by_cases hless : voterCount < voters
    · by_cases hvoter : m.role = .voter
      · rw [promote, if_neg fun h ↦ h.2 hvoter, if_neg (by simp [hvoter]),
          countRole_cons_of_ne (by simp [hvoter]), ih, assign_cons_of_not _ _ (by simp [hvoter]),
          fill_cons_voter hvoter]
      · have hcount : (if m.role = .standBy then countRole .standBy (m :: rest) - 1
            else countRole .standBy (m :: rest)) = countRole .standBy rest := by
          rw [countRole_cons]
          split <;> rfl
        have hmissing : voters - voterCount = voters - (voterCount + 1) + 1 := by omega
        rw [promote, if_pos ⟨hless, hvoter⟩, hcount, ih, hmissing, assign,
          if_pos (decide_eq_true hvoter), fill_cons_voter rfl]
    · have hmissing : voters - voterCount = 0 := by omega
      rw [promote_of_le (Nat.not_lt.1 hless), hmissing, assign]
      rfl

theorem members_adjustRoles (c : Cluster) (voters standbys : Nat) :
    (c.adjustRoles voters standbys).members = fill standbys (elevate voters c.members) :=
  promote_eq_assign voters standbys _ c.members

/-! ## Places -/

theorem chosen_elevate (voters : Nat) (members : List Member) :
    chosen (· ≠ .voter) (voters - countRole .voter members) members = promoted voters members := by
  rw [← length_places]
  rfl

theorem mem_places_voter_elevate : i ∈ places .voter (elevate voters members) ↔
    i ∈ places .voter members ∨ i ∈ promoted voters members := by
  rw [elevate, mem_places_assign, chosen_elevate]

theorem places_standBy_elevate (voters : Nat) (members : List Member) :
    places .standBy (elevate voters members) = retained voters members := by
  rw [elevate, places_assign_of_ne (by decide), chosen_elevate]
  rfl

theorem places_spare_elevate (voters : Nat) (members : List Member) :
    places .spare (elevate voters members) =
      (places .spare members).filter (· ∉ promoted voters members) := by
  rw [elevate, places_assign_of_ne (by decide), chosen_elevate]

theorem chosen_fill (voters standbys : Nat) (members : List Member) :
    chosen (· = .spare) (standbys - countRole .standBy (elevate voters members))
      (elevate voters members) = raised voters standbys members := by
  rw [← length_places, places_standBy_elevate]
  exact congrArg (List.take _) (places_spare_elevate voters members)

/-! ## Targets -/

theorem countRole_voter_fill (standbys : Nat) (members : List Member) :
    countRole .voter (fill standbys members) = countRole .voter members := by
  rw [← length_places, ← length_places, fill, places_assign_of_not (by decide) (by decide)]

theorem met_standBy_fill (standbys : Nat) (members : List Member) :
    Met (· = .spare) .standBy standbys (fill standbys members) :=
  met_assign (by decide) standbys members

/-- The stand-bys are made without undoing what has been done for the voters. -/
theorem met_voter_fill (voters standbys : Nat) (members : List Member) :
    Met (· ≠ .voter) .voter voters (fill standbys (elevate voters members)) := by
  have helevated : Met (· ≠ .voter) .voter voters (elevate voters members) :=
    met_assign (by decide) voters members
  cases helevated with
  | inl henough => exact .inl ((countRole_voter_fill ..).symm ▸ henough)
  | inr hvoters =>
    have hspares : ∀ m ∈ elevate voters members, decide (m.role = .spare) = false := by
      intro m hm
      have hvoter : m.role = .voter := by simpa using hvoters m hm
      simp [hvoter]
    have hfill : fill standbys (elevate voters members) = elevate voters members :=
      assign_of_forall_not _ _ hspares
    rw [hfill]
    exact .inr hvoters

theorem adjustRoles_of_met {c : Cluster} (hvoters : Met (· ≠ .voter) .voter voters c.members)
    (hstandbys : Met (· = .spare) .standBy standbys c.members) :
    c.adjustRoles voters standbys = c := by
  have hmembers : (c.adjustRoles voters standbys).members = c.members := by
    rw [members_adjustRoles, elevate, hvoters.assign_eq, fill, hstandbys.assign_eq]
  calc c.adjustRoles voters standbys
    _ = { c with members := (c.adjustRoles voters standbys).members } := rfl
    _ = c := by rw [hmembers]

theorem length_eq_countRole (members : List Member) :
    members.length = countRole .voter members + countRole .standBy members +
      countRole .spare members := by
  induction members with
  | nil => rfl
  | cons m rest ih =>
    rw [List.length_cons, ih, countRole_cons, countRole_cons, countRole_cons]
    cases m.role with
    | voter | standBy | spare => simp; omega

theorem countRole_spare_of_met (hvoters : Met (· ≠ .voter) .voter voters members)
    (hstandbys : Met (· = .spare) .standBy standbys members)
    (hroom : members.length ≤ voters + standbys) : countRole .spare members = 0 := by
  have hcounts := length_eq_countRole members
  obtain henough | hvoters := hvoters
  · obtain henough' | hnobody := hstandbys
    · omega
    · exact List.countP_eq_zero.2 fun m hm ↦ by simpa using hnobody m hm
  · refine List.countP_eq_zero.2 fun m hm ↦ ?_
    have hvoter : m.role = .voter := by simpa using hvoters m hm
    simp [hvoter]

/-! ## The whole promotion -/

/-- The count of stand-bys never falls below zero. -/
theorem promote?_eq_some (hcount : countRole .standBy members ≤ standbyCount) :
    promote? voters standbys voterCount standbyCount members =
      some (promote voters standbys voterCount standbyCount members) := by
  induction members generalizing voterCount standbyCount with
  | nil => rfl
  | cons m rest ih =>
    rw [countRole_cons] at hcount
    rw [promote?, promote]
    by_cases hpromote : voterCount < voters ∧ m.role ≠ .voter
    · rw [if_pos hpromote, if_pos hpromote]
      by_cases hstandby : m.role = .standBy
      · rw [if_pos hstandby] at hcount
        rw [if_neg fun h ↦ by omega, if_pos hstandby, ih (by omega), Option.map_some]
      · rw [if_neg hstandby] at hcount
        rw [if_neg fun h ↦ hstandby h.1, if_neg hstandby, ih hcount, Option.map_some]
    · have hrest : countRole .standBy rest ≤ standbyCount := by omega
      rw [if_neg hpromote, if_neg hpromote, ih hrest, ih (Nat.le_succ_of_le hrest)]
      split <;> rfl

theorem undemoted_promote (voters standbys voterCount standbyCount : Nat) (members : List Member) :
    List.Forall₂ (fun m m' ↦ m.role.rank ≤ m'.role.rank) members
      (promote voters standbys voterCount standbyCount members) := by
  induction members generalizing voterCount standbyCount with
  | nil => exact .nil
  | cons m rest ih =>
    rw [promote]
    split
    case isTrue => exact .cons m.role.rank_le_voter (ih _ _)
    case isFalse =>
      split
      case isTrue hspare =>
        have hless : m.role.rank ≤ Role.standBy.rank := by
          rw [hspare.2]
          decide
        exact .cons hless (ih _ _)
      case isFalse => exact .cons (Nat.le_refl _) (ih _ _)

/-- Adjusting the roles promotes the earliest members, as many as the targets ask for, and changes
nothing else. -/
theorem adjusted (c : Cluster) (voters standbys : Nat) :
    Adjusted voters standbys c (c.adjustRoles voters standbys) := by
  have hmembers := members_adjustRoles c voters standbys
  have hvoters := met_voter_fill voters standbys c.members
  have hstandbys := met_standBy_fill standbys (elevate voters c.members)
  have hentries : (c.adjustRoles voters standbys).entries = c.entries :=
    map_promote (fun _ _ ↦ rfl) voters standbys c.members _ _
  rw [← hmembers] at hvoters hstandbys
  constructor
  case entries => exact hentries
  case leader => rfl
  case lastId => rfl
  case voterPlaces =>
    intro i
    rw [hmembers, fill, places_assign_of_not (by decide) (by decide), mem_places_voter_elevate]
  case standByPlaces =>
    intro i
    rw [hmembers, fill, mem_places_assign, places_standBy_elevate, chosen_fill]
  case sparePlaces =>
    intro i
    rw [hmembers, fill, places_assign_of_ne (by decide), chosen_fill, places_spare_elevate]
    rw [List.mem_filter, List.mem_filter, decide_eq_true_iff, decide_eq_true_iff, and_assoc]
  case undemoted => exact undemoted_promote ..
  case counted => exact promote?_eq_some (Nat.le_refl _)
  case stable => exact adjustRoles_of_met hvoters hstandbys
  case sufficient =>
    intro hroom
    have hlength : (c.adjustRoles voters standbys).members.length = c.members.length := by
      simpa [Cluster.entries] using congrArg List.length hentries
    rw [← List.length_eq_zero_iff, length_places]
    exact countRole_spare_of_met hvoters hstandbys (hlength ▸ hroom)

/-- A stand-by that becomes a voter leaves a place to a spare behind it. -/
example : raised 2 1 [⟨1, "a", .spare⟩, ⟨2, "b", .standBy⟩, ⟨3, "c", .spare⟩, ⟨4, "d", .spare⟩] =
    [2] := by decide

end Cluster

end Turnstile
