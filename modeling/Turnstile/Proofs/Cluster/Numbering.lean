import Mathlib.Data.List.Pairwise
import Turnstile.Proofs.Cluster.Leadership

/-!
# How members are numbered

No call gives an id twice or gives an address a second one while it is there: a call keeps some of
the members in their order, apart from their roles, or puts one at the end under the next id.  So ids
are increasing along the list, and a member who has stayed is known by the same id and address as
before.
-/

namespace Turnstile

/-- Where no two items have the same key, an item is found by its key. -/
theorem find?_of_key {α κ : Type} [DecidableEq κ] {key : α → κ} {l : List α} {a : α}
    (hdistinct : (l.map key).Nodup) (ha : a ∈ l) : (l.find? fun x ↦ key x = key a) = some a := by
  cases hfound : l.find? fun x ↦ key x = key a with
  | none => exact absurd (decide_eq_true rfl) (List.find?_eq_none.1 hfound a ha)
  | some x =>
    have hkey : key x = key a := by simpa using List.find?_some hfound
    rw [List.inj_on_of_nodup_map hdistinct (List.mem_of_find?_eq_some hfound) ha hkey]

namespace Cluster

/-- Who belongs to the cluster, whatever the roles. -/
def entries (c : Cluster) : List (Nat × String) :=
  c.members.map fun m ↦ (m.id, m.address)

variable {c c' c'' : Cluster} {m m' : Member} {before after : List Member}

theorem map_fst_entries (c : Cluster) : c.entries.map Prod.fst = c.ids := by
  simp [entries, ids]

theorem map_snd_entries (c : Cluster) : c.entries.map Prod.snd = c.members.map Member.address := by
  simp [entries]

/-- The next cluster has some of the entries, or one more under the next id. -/
inductive Succeeds (c c' : Cluster) : Prop where
  | keep (hsome : c'.entries.Sublist c.entries) (hlast : c'.lastId = c.lastId)
  | add (address : String) (hnew : address ∉ c.members.map Member.address)
      (hentries : c'.entries = c.entries ++ [(c.lastId + 1, address)])
      (hlast : c'.lastId = c.lastId + 1)

theorem Succeeds.of_entries (hentries : c'.entries = c.entries) (hlast : c'.lastId = c.lastId) :
    c.Succeeds c' :=
  .keep (hentries ▸ .refl _) hlast

theorem succeeds_add (c : Cluster) (address : String) (role : Role) :
    c.Succeeds (c.add address role).2 := by
  unfold Cluster.add
  split
  case h_1 m hfound => exact .of_entries rfl rfl
  case h_2 hnone =>
    refine .add address ?_ ?_ rfl
    · intro hmem
      obtain ⟨m, hm, rfl⟩ := List.mem_map.1 hmem
      exact absurd (decide_eq_true rfl) (List.find?_eq_none.1 hnone m hm)
    · simp [entries]

theorem succeeds_setRole (c : Cluster) (id : Nat) (role : Role) :
    c.Succeeds (c.setRole id role).2 := by
  unfold Cluster.setRole
  split
  · exact .of_entries rfl rfl
  · refine .of_entries ?_ rfl
    simp only [entries, List.map_map]
    apply List.map_congr_left
    intro m _
    simp only [Function.comp_apply]
    split <;> rfl

theorem succeeds_remove (c : Cluster) (id : Nat) : c.Succeeds (c.remove id).2 := by
  unfold Cluster.remove
  split
  · exact .of_entries rfl rfl
  · exact .keep (List.filter_sublist.map _) rfl

theorem succeeds_transferLeadership (c : Cluster) (source : Nat) :
    c.Succeeds (c.transferLeadership source).2 := by
  unfold Cluster.transferLeadership
  split
  · exact .of_entries rfl rfl
  · split <;> exact .of_entries rfl rfl

theorem succeeds_answer (call : interface.Call) (c : Cluster) : c.Succeeds (answer call c).2 := by
  cases call with
  | add address role => exact succeeds_add c address role
  | setRole id role => exact succeeds_setRole c id role
  | setLeader | leaderId | leader | members | isEmpty => exact .of_entries rfl rfl
  | remove id => exact succeeds_remove c id
  | adjustRoles voters standbys =>
    exact .of_entries (map_promote (fun _ _ ↦ rfl) voters standbys c.members _ _) rfl
  | transferLeadership source => exact succeeds_transferLeadership c source

/-! ## Members in the order of their ids -/

/-- Ids increase along the list, none is beyond the last one given, and no two members share an
address. -/
structure Numbered (c : Cluster) : Prop where
  increasing : c.ids.Pairwise (· < ·)
  given : ∀ id ∈ c.ids, id ≤ c.lastId
  addresses : (c.members.map Member.address).Nodup

theorem numbered_empty : empty.Numbered := ⟨.nil, nofun, .nil⟩

theorem Numbered.succeeds (hc : c.Numbered) (hnext : c.Succeeds c') : c'.Numbered := by
  cases hnext with
  | keep hsome hlast =>
    have hids : c'.ids.Sublist c.ids := by
      rw [← map_fst_entries, ← map_fst_entries]
      exact hsome.map Prod.fst
    constructor
    case increasing => exact hc.increasing.sublist hids
    case given =>
      intro id hid
      rw [hlast]
      exact hc.given id (hids.subset hid)
    case addresses =>
      have haddresses := hsome.map Prod.snd
      rw [map_snd_entries, map_snd_entries] at haddresses
      exact hc.addresses.sublist haddresses
  | add address hnew hentries hlast =>
    have hids : c'.ids = c.ids ++ [c.lastId + 1] := by
      rw [← map_fst_entries, hentries, List.map_append, map_fst_entries]
      rfl
    constructor
    case increasing =>
      rw [hids, List.pairwise_append]
      refine ⟨hc.increasing, List.pairwise_singleton .., ?_⟩
      intro id hid next hnext
      have hle := hc.given id hid
      rw [List.mem_singleton] at hnext
      omega
    case given =>
      intro id hid
      rw [hids, List.mem_append, List.mem_singleton] at hid
      rw [hlast]
      obtain hold | rfl := hid
      · have hle := hc.given id hold
        omega
      · exact Nat.le_refl _
    case addresses =>
      rw [← map_snd_entries, hentries, List.map_append, map_snd_entries]
      refine List.nodup_append.2 ⟨hc.addresses, List.nodup_singleton _, ?_⟩
      rintro a ha _ hb rfl
      obtain rfl : a = address := List.mem_singleton.1 hb
      exact hnew ha

theorem Numbered.answer (hc : c.Numbered) (call : interface.Call) :
    (Cluster.answer call c).2.Numbered :=
  hc.succeeds (succeeds_answer call c)

/-- A member is known by the id. -/
theorem Numbered.eq_of_id (hc : c.Numbered) (hm : m ∈ c.members) (hm' : m' ∈ c.members)
    (hid : m.id = m'.id) : m = m' :=
  List.inj_on_of_nodup_map hc.increasing.nodup hm hm' hid

/-! ## Earlier and later -/

/-- Who belongs to a later cluster under an id given earlier belonged to it then, at the same
address. -/
structure Precedes (c c' : Cluster) : Prop where
  lastId : c.lastId ≤ c'.lastId
  stayed : ∀ m' ∈ c'.members, m'.id ≤ c.lastId →
    ∃ m ∈ c.members, m.id = m'.id ∧ m.address = m'.address

namespace Precedes

theorem refl (c : Cluster) : c.Precedes c :=
  ⟨Nat.le_refl _, fun m hm _ ↦ ⟨m, hm, rfl, rfl⟩⟩

theorem trans (h : c.Precedes c') (h' : c'.Precedes c'') : c.Precedes c'' where
  lastId := Nat.le_trans h.lastId h'.lastId
  stayed := by
    intro m'' hm'' hgiven
    obtain ⟨m', hm', hid', haddress'⟩ := h'.stayed m'' hm'' (Nat.le_trans hgiven h.lastId)
    obtain ⟨m, hm, hid, haddress⟩ := h.stayed m' hm' (hid' ▸ hgiven)
    exact ⟨m, hm, hid.trans hid', haddress.trans haddress'⟩

theorem succeeds (hnext : c.Succeeds c') : c.Precedes c' := by
  have hmem {c : Cluster} {m : Member} (hm : m ∈ c.members) : (m.id, m.address) ∈ c.entries :=
    List.mem_map_of_mem hm
  have hfound {m' : Member} (hm' : (m'.id, m'.address) ∈ c.entries) :
      ∃ m ∈ c.members, m.id = m'.id ∧ m.address = m'.address := by
    obtain ⟨m, hm, heq⟩ := List.mem_map.1 hm'
    exact ⟨m, hm, congrArg Prod.fst heq, congrArg Prod.snd heq⟩
  cases hnext with
  | keep hsome hlast =>
    exact ⟨Nat.le_of_eq hlast.symm, fun m' hm' _ ↦ hfound (hsome.subset (hmem hm'))⟩
  | add address hnew hentries hlast =>
    refine ⟨by omega, fun m' hm' hgiven ↦ ?_⟩
    have hm'' := hmem hm'
    rw [hentries, List.mem_append, List.mem_singleton] at hm''
    obtain hold | hlater := hm''
    · exact hfound hold
    · have hid : m'.id = c.lastId + 1 := congrArg Prod.fst hlater
      omega

/-- An id that is no member's any more stays so. -/
theorem notMem (h : c.Precedes c') {id : Nat} (hgiven : id ≤ c.lastId) (hgone : id ∉ c.ids) :
    id ∉ c'.ids := by
  intro hmem
  obtain ⟨m', hm', rfl⟩ := List.mem_map.1 hmem
  obtain ⟨m, hm, hid, _⟩ := h.stayed m' hm' hgiven
  exact hgone (hid ▸ List.mem_map_of_mem hm)

/-- An id stands for one address. -/
theorem address (h : c.Precedes c') (hc : c.Numbered) (hm : m ∈ c.members) (hm' : m' ∈ c'.members)
    (hid : m.id = m'.id) : m.address = m'.address := by
  have hgiven : m.id ≤ c.lastId := hc.given _ (List.mem_map_of_mem hm)
  obtain ⟨m₀, hm₀, hid₀, haddress⟩ := h.stayed m' hm' (hid ▸ hgiven)
  rw [hc.eq_of_id hm hm₀ (hid.trans hid₀.symm), haddress]

end Precedes

/-! ## Removals -/

/-- The cluster without the member between `before` and `after`. -/
def without (c : Cluster) (before after : List Member) (id : Nat) : Cluster :=
  { c with
    members := before ++ after
    leader := if c.leader = some id then none else c.leader }

theorem remove_of_notMem {id : Nat} (hgone : id ∉ c.ids) :
    c.remove id = (.error (notAMember id), c) := by
  have hnone : c.member? id = none := by
    rw [member?, List.find?_eq_none]
    intro m hm hid
    exact hgone (of_decide_eq_true hid ▸ List.mem_map_of_mem hm)
  rw [Cluster.remove, hnone]

/-- The id of a member is not that of another. -/
theorem Numbered.notMem_without (hc : c.Numbered) (hmembers : c.members = before ++ m :: after) :
    m.id ∉ (c.without before after m.id).ids := by
  have hdistinct := hc.increasing.nodup
  rw [ids, hmembers, List.map_append, List.map_cons, List.nodup_middle, List.nodup_cons,
    ← List.map_append] at hdistinct
  exact hdistinct.1

/-- The removal of a member leaves the others as they are and in their places. -/
theorem Numbered.remove_of_split (hc : c.Numbered) (hmembers : c.members = before ++ m :: after) :
    c.remove m.id = (.ok (), c.without before after m.id) := by
  have hm : m ∈ c.members := by simp [hmembers]
  have hfound : c.member? m.id = some m := find?_of_key hc.increasing.nodup hm
  have hothers : c.members.filter (·.id ≠ m.id) = before ++ after := by
    have hstays : ∀ m' ∈ before ++ after, decide (m'.id ≠ m.id) = true := by
      intro m' hm'
      exact decide_eq_true fun hid ↦ hc.notMem_without hmembers (hid ▸ List.mem_map_of_mem hm')
    have hkept := List.filter_eq_self.2 hstays
    rw [List.filter_append] at hkept
    rw [hmembers, List.filter_append, List.filter_cons_of_neg (by simp), hkept]
  unfold Cluster.remove
  simp only [hfound, hothers, without]

end Cluster

end Turnstile
