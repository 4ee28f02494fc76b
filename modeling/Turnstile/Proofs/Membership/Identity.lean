import Mathlib.Data.List.Forall2
import Turnstile.Proofs.Cluster.Numbering
import Turnstile.Proofs.Net.Address

/-!
# Members by name

A listing goes from the address of a member to its host and from there to a name; a removal goes from
a name to an IP address and from there to the address of a member.  With a table that gives each IP
address a name of its own the two ways are inverse to each other, so a name that is listed can be used
to remove the member that it is listed for, and no name removes another.
-/

namespace Turnstile

/-- The clusters that calls lead to from one without members. -/
inductive Cluster.Reachable : Cluster → Prop where
  | start : Reachable empty
  | call {c : Cluster} (call : interface.Call) : Reachable c → Reachable (answer call c).2

theorem Cluster.Reachable.numbered {c : Cluster} (hreach : c.Reachable) : c.Numbered := by
  induction hreach with
  | start => exact numbered_empty
  | call call _ ih => exact ih.answer call

/-- The text is what the IP address that it stands for is written as. -/
def Net.IpAddress.Canonical (text : String) : Prop :=
  ∃ ip, parse text = some ip ∧ ip.text = text

instance (text : String) : Decidable (Net.IpAddress.Canonical text) :=
  match hparse : Net.IpAddress.parse text with
  | none => isFalse (by simp [Net.IpAddress.Canonical, hparse])
  | some ip => decidable_of_iff (ip.text = text) (by simp [Net.IpAddress.Canonical, hparse])

namespace Membership

open Net (Address.make IpAddress)

/-- A table of IP addresses in their canonical texts and names, one for each.  The names have no
white space around them and are no IP addresses themselves. -/
structure Naming (table : List (String × String)) : Prop where
  hosts : (table.map Prod.fst).Nodup
  names : (table.map Prod.snd).Nodup
  canonical : ∀ entry ∈ table, IpAddress.Canonical entry.1
  trimmed : ∀ entry ∈ table, Text.trim entry.2.toList = entry.2.toList
  apart : ∀ entry ∈ table, IpAddress.parse entry.2 = none

section Table

variable {table : List (String × String)} {host name : String}

theorem lookup_of_mem (hhosts : (table.map Prod.fst).Nodup) (hentry : (host, name) ∈ table) :
    table.lookup host = some name := by
  induction table with
  | nil => exact absurd hentry List.not_mem_nil
  | cons entry rest ih =>
    rw [List.map_cons, List.nodup_cons] at hhosts
    obtain rfl | hrest := List.mem_cons.1 hentry
    · exact List.lookup_cons_self
    · have hother : host ≠ entry.1 := fun heq ↦ hhosts.1 (heq ▸ List.mem_map_of_mem hrest)
      rw [List.lookup_cons, beq_false_of_ne hother]
      exact ih hhosts.2 hrest

namespace Naming

variable (hnaming : Naming table)

include hnaming

/-- The name of the node at a listed IP address. -/
theorem identity_of_mem (hentry : (host, name) ∈ table) (port : Nat) :
    (Resolver.ofTable table).identity (Address.make host port) = .ok name := by
  obtain ⟨ip, _, rfl⟩ := hnaming.canonical (host, name) hentry
  have hreverse : (Resolver.ofTable table).reverse ip.text = .ok [name] := by
    simp only [Resolver.ofTable, lookup_of_mem hnaming.hosts hentry]
  rw [Resolver.identity, Net.Address.host_make_text, hreverse]
  rfl

/-- The IP address of a listed name. -/
theorem forward_of_mem (hentry : (host, name) ∈ table) :
    ∃ ip, (Resolver.ofTable table).forward name = .ok ip ∧ ip.text = host := by
  obtain ⟨ip, hparse, htext⟩ := hnaming.canonical (host, name) hentry
  refine ⟨ip, ?_, htext⟩
  have hname : IpAddress.parse name = none := hnaming.apart (host, name) hentry
  have hfound := find?_of_key hnaming.names hentry
  simp only [Resolver.ofTable, hname, hfound, Option.bind_some, hparse]

end Naming

end Table

/-! ## Members -/

/-- The table has the member's IP address with the name. -/
def Named (table : List (String × String)) (port : Nat) (m : Member) (name : String) : Prop :=
  ∃ host, (host, name) ∈ table ∧ m.address = Address.make host port

/-- The directory of a table and a replication port. -/
def fixed (table : List (String × String)) (port : Nat) : Directory :=
  ⟨.ofTable table, port⟩

/-- The names under which the members are listed, and what can be done with these and others. -/
structure Identified (table : List (String × String)) (port : Nat) (c : Cluster)
    (names : List String) : Prop where
  listing : (members (fixed table port)).run.run Cluster.answer c = (.ok names, c)
  /-- Each member has the name of its IP address, in order. -/
  named : List.Forall₂ (Named table port) c.members names
  distinct : names.Nodup
  /-- A listed name, with white space around it or not, removes the member that it is listed for; the
  others are as before, and listed under the same names. -/
  removal : ∀ i m name, c.members[i]? = some m → names[i]? = some name →
    ∀ pre post, (∀ x ∈ pre, Text.isBlank x) → (∀ x ∈ post, Text.isBlank x) →
      ∃ c', (remove (fixed table port) (String.ofList (pre ++ name.toList ++ post))).run.run
          Cluster.answer c = (.ok (), c') ∧
        c'.members = c.members.eraseIdx i ∧
        c'.leader = (if c.leader = some m.id then none else c.leader) ∧ c'.lastId = c.lastId ∧
        (c'.members ≠ [] →
          (members (fixed table port)).run.run Cluster.answer c' = (.ok (names.eraseIdx i), c'))
  /-- A name that stands for no member removes none. -/
  unknown : ∀ name, (∀ ip,
      (Resolver.ofTable table).forward (String.ofList (Text.trim name.toList)) = .ok ip →
        ∀ m ∈ c.members, m.address ≠ Address.make ip.text port) →
    ∃ e, (remove (fixed table port) name).run.run Cluster.answer c = (.error e, c)

section Members

variable {table : List (String × String)} {port : Nat} {found : List Member} {names : List String}
  {c : Cluster} {d : Directory}

/-- The names of members whose IP addresses are in the table. -/
theorem exists_names
    (hfound : ∀ m ∈ found, ∃ host ∈ table.map Prod.fst, m.address = Address.make host port) :
    ∃ names, List.Forall₂ (Named table port) found names := by
  induction found with
  | nil => exact ⟨[], .nil⟩
  | cons m rest ih =>
    obtain ⟨names, hnames⟩ := ih fun m' hm' ↦ hfound m' (List.mem_cons_of_mem m hm')
    obtain ⟨host, hhost, haddress⟩ := hfound m List.mem_cons_self
    obtain ⟨⟨host, name⟩, hentry, rfl⟩ := List.mem_map.1 hhost
    exact ⟨name :: names, .cons ⟨host, hentry, haddress⟩ hnames⟩

theorem Named.inj (hnaming : Naming table) {m m' : Member} {name : String}
    (hm : Named table port m name) (hm' : Named table port m' name) : m.address = m'.address := by
  obtain ⟨host, hentry, haddress⟩ := hm
  obtain ⟨host', hentry', haddress'⟩ := hm'
  have hsame : (host, name) = (host', name) :=
    List.inj_on_of_nodup_map hnaming.names hentry hentry' rfl
  rw [haddress, haddress', (Prod.mk.inj hsame).1]

/-- Members at different addresses have different names. -/
theorem nodup_names (hnaming : Naming table)
    (hnames : List.Forall₂ (Named table port) found names)
    (hdistinct : (found.map Member.address).Nodup) : names.Nodup := by
  induction hnames with
  | nil => exact .nil
  | @cons m name rest others hm hrest ih =>
    rw [List.map_cons, List.nodup_cons] at hdistinct
    refine List.nodup_cons.2 ⟨fun hmem ↦ hdistinct.1 ?_, ih hdistinct.2⟩
    obtain ⟨i, hi, hother⟩ := List.getElem_of_mem hmem
    have hm' := hrest.get (hrest.length_eq ▸ hi) hi
    simp only [List.get_eq_getElem, hother] at hm'
    rw [hm.inj hnaming hm']
    exact List.mem_map_of_mem (List.getElem_mem _)

theorem mapM_identity (hnaming : Naming table)
    (hnames : List.Forall₂ (Named table port) found names) :
    (found.mapM fun m ↦ (Resolver.ofTable table).identity m.address) = .ok names := by
  induction hnames with
  | nil => rfl
  | @cons m name rest others hm hrest ih =>
    obtain ⟨host, hentry, haddress⟩ := hm
    rw [List.mapM_cons, haddress, hnaming.identity_of_mem hentry, ih]
    rfl

/-- Among members there is somebody to ask. -/
theorem run_members (hsome : c.members ≠ []) :
    (members d).run.run Cluster.answer c =
      (c.members.mapM fun m ↦ d.resolver.identity m.address, c) := by
  obtain ⟨found, leader, lastId⟩ := c
  obtain ⟨m, rest, rfl⟩ := List.exists_cons_of_ne_nil hsome
  rfl

theorem run_remove (hsome : c.members ≠ []) (name : String) :
    (remove d name).run.run Cluster.answer c =
      match select d (String.ofList (Text.trim name.toList)) c.members with
      | .ok id => c.remove id
      | .error e => (.error e, c) := by
  obtain ⟨found, leader, lastId⟩ := c
  obtain ⟨m, rest, rfl⟩ := List.exists_cons_of_ne_nil hsome
  let c : Cluster := ⟨m :: rest, leader, lastId⟩
  have hrun : (remove d name).run.run Cluster.answer c =
      (Engine.ofResult (select d (String.ofList (Text.trim name.toList)) c.members) >>=
        Engine.remove).run.run Cluster.answer c := rfl
  rw [hrun]
  cases select d (String.ofList (Text.trim name.toList)) c.members <;> rfl

theorem select_of_found {name : String} {ip : IpAddress} {m : Member}
    (hforward : d.resolver.forward name = .ok ip)
    (hfound : found.find? (·.address = Address.make ip.text d.replicationPort) = some m) :
    select d name found = .ok m.id := by
  unfold Membership.select
  rw [hforward]
  simp only
  rw [hfound]

/-- A name selects the member that has it. -/
theorem Named.select (hnaming : Naming table) (hc : c.Numbered) {m : Member} (hm : m ∈ c.members)
    {name : String} (hname : Named table port m name) {pre post : List Char}
    (hpre : ∀ x ∈ pre, Text.isBlank x) (hpost : ∀ x ∈ post, Text.isBlank x) :
    Membership.select (fixed table port)
      (String.ofList (Text.trim (String.ofList (pre ++ name.toList ++ post)).toList)) c.members =
        .ok m.id := by
  obtain ⟨host, hentry, haddress⟩ := hname
  obtain ⟨ip, hforward, htext⟩ := hnaming.forward_of_mem hentry
  have htrimmed : Text.trim name.toList = name.toList := hnaming.trimmed (host, name) hentry
  have hfound : c.members.find? (·.address = Address.make ip.text port) = some m := by
    rw [htext, ← haddress]
    exact find?_of_key hc.addresses hm
  rw [String.toList_ofList, Text.trim_pad hpre hpost, htrimmed, String.ofList_toList]
  exact select_of_found hforward hfound

theorem select_of_unknown {resolver : Resolver} {name : String}
    (hunknown : ∀ ip, resolver.forward name = .ok ip →
      ∀ m ∈ found, m.address ≠ Address.make ip.text port) :
    ∃ e, select ⟨resolver, port⟩ name found = .error e := by
  unfold Membership.select
  split
  case h_1 e _ => exact ⟨e, rfl⟩
  case h_2 ip hforward =>
    split
    case h_1 m hfound =>
      have haddress := List.find?_some hfound
      exact absurd (of_decide_eq_true haddress)
        (hunknown ip hforward m (List.mem_of_find?_eq_some hfound))
    case h_2 => exact ⟨_, rfl⟩

/-- Members whose IP addresses are in the table are listed by the names that remove them. -/
theorem identified (hnaming : Naming table) (hreach : c.Reachable) (hsome : c.members ≠ [])
    (haddresses : ∀ m ∈ c.members, ∃ host ∈ table.map Prod.fst, m.address = Address.make host port) :
    ∃ names, Identified table port c names := by
  have hc := hreach.numbered
  obtain ⟨names, hnames⟩ := exists_names haddresses
  refine ⟨names, ?_⟩
  constructor
  case listing =>
    rw [run_members hsome]
    exact congrArg (·, c) (mapM_identity hnaming hnames)
  case named => exact hnames
  case distinct => exact nodup_names hnaming hnames hc.addresses
  case removal =>
    intro i m name hm hname pre post hpre hpost
    obtain ⟨hi, hmi⟩ := List.getElem?_eq_some_iff.1 hm
    obtain ⟨hi', hnamei⟩ := List.getElem?_eq_some_iff.1 hname
    have hnamed : Named table port m name := hmi ▸ hnamei ▸ hnames.get hi hi'
    have hmem : m ∈ c.members := List.mem_of_getElem? hm
    have hsplit : c.members = c.members.take i ++ m :: c.members.drop (i + 1) := by
      rw [← hmi, ← List.drop_eq_getElem_cons hi, List.take_append_drop]
    have hothers : List.Forall₂ (Named table port) (c.members.eraseIdx i) (names.eraseIdx i) := by
      rw [List.eraseIdx_eq_take_drop_succ, List.eraseIdx_eq_take_drop_succ]
      exact List.rel_append (List.forall₂_take i hnames) (List.forall₂_drop (i + 1) hnames)
    refine ⟨c.without (c.members.take i) (c.members.drop (i + 1)) m.id, ?_, ?_, rfl, rfl, ?_⟩
    · rw [run_remove hsome, hnamed.select hnaming hc hmem hpre hpost]
      exact hc.remove_of_split hsplit
    · exact (List.eraseIdx_eq_take_drop_succ ..).symm
    · intro hleft
      rw [run_members hleft]
      have hlisted := mapM_identity hnaming hothers
      rw [List.eraseIdx_eq_take_drop_succ] at hlisted
      exact congrArg (·, _) hlisted
  case unknown =>
    intro name hunknown
    obtain ⟨e, hselect⟩ := select_of_unknown hunknown
    refine ⟨e, ?_⟩
    rw [fixed, run_remove hsome, hselect]

end Members

/-- Two nodes at IP addresses of both versions. -/
def bothVersions : List (String × String) :=
  [("10.0.0.1", "a"), ("fd00::2", "b")]

/-- Both nodes have joined, the second one first, which leads. -/
def pair : Cluster :=
  ⟨[⟨1, "[fd00::2]:9000", .voter⟩, ⟨2, "10.0.0.1:9000", .spare⟩], some 1, 2⟩

theorem identified_pair :
    (members (fixed bothVersions 9000)).run.run Cluster.answer pair = (.ok ["b", "a"], pair) ∧
      Identified bothVersions 9000 pair ["b", "a"] := by
  have hnaming : Naming bothVersions := by
    constructor <;> decide +kernel
  have hreach : pair.Reachable :=
    ((Cluster.Reachable.start.call (.add "[fd00::2]:9000" .voter)).call
      (.add "10.0.0.1:9000" .spare)).call (.setLeader (some 1))
  have haddresses : ∀ m ∈ pair.members, ∃ host ∈ bothVersions.map Prod.fst,
      m.address = Address.make host 9000 := by decide +kernel
  have hlisting : (members (fixed bothVersions 9000)).run.run Cluster.answer pair =
      (.ok ["b", "a"], pair) := by decide +kernel
  obtain ⟨names, hidentified⟩ := identified hnaming hreach (by decide) haddresses
  obtain rfl : ["b", "a"] = names :=
    Except.ok.inj (congrArg Prod.fst (hlisting.symm.trans hidentified.listing))
  exact ⟨hlisting, hidentified⟩

end Membership

end Turnstile
