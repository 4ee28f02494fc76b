import Turnstile.Config.Basic
import Turnstile.Proofs.Cluster.Leadership
import Turnstile.Proofs.Net.Address

/-!
# How a cluster assembles

The nodes of a cluster start in the order of their list, each told to contact the nodes before it.
It is told their names, while the cluster knows its members by IP address, and the two are compared as
texts.  So a node finds a member to join only if a name before it is the text of an IP address before
it.  The second node has the first alone before it: the cluster assembles exactly if the name of the
first node is its IP address.
-/

namespace Turnstile

namespace Cluster

/-! ## Starting one after another -/

/-- What happens while the nodes of a cluster start. -/
inductive Event where
  /-- A node becomes a member. -/
  | ready (o : Node.Options)
  /-- A round of rebalancing. -/
  | round (voters standbys : Nat)

/-- The options of a node that becomes a member. -/
def Event.options? : Event → Option Node.Options
  | ready o => some o
  | round _ _ => none

/-- The results of the joins, and the cluster after them. -/
def startUp : List Event → Cluster → List (Except Error Nat) × Cluster
  | [], c => ([], c)
  | .ready o :: rest, c =>
    let (result, c) := (Node.join o).run.run answer c
    let (results, c) := startUp rest c
    (result :: results, c)
  | .round voters standbys :: rest, c =>
    startUp rest ((Node.rebalance voters standbys).run.run answer c).2

/-- The members are those at the addresses, and the first of them leads. -/
structure Assembled (addresses : List String) (c : Cluster) : Prop where
  members : c.members.map Member.address = addresses
  leader : c.leader = c.members.head?.map Member.id

variable {addresses : List String} {c : Cluster} {o : Node.Options} {events : List Event}

theorem join_of_empty (hempty : c.members = []) (o : Node.Options) :
    (Node.join o).run.run answer c =
      (.ok (c.lastId + 1), ⟨[⟨c.lastId + 1, o.address, .voter⟩], some (c.lastId + 1), c.lastId + 1⟩) := by
  obtain ⟨members, leader, lastId⟩ := c
  obtain rfl : members = [] := hempty
  rfl

/-- Beside members a node becomes one if it finds one of its contacts. -/
theorem join_of_members (hsome : c.members ≠ []) (o : Node.Options) :
    (Node.join o).run.run answer c =
      if Node.reachable o.join c.members then
        (.ok (c.add o.address .spare).1, (c.add o.address .spare).2)
      else (.error (Node.noJoinTarget o.join), c) := by
  obtain ⟨members, leader, lastId⟩ := c
  obtain ⟨m, rest, rfl⟩ := List.exists_cons_of_ne_nil hsome
  let c : Cluster := ⟨m :: rest, leader, lastId⟩
  have hrun : (Node.join o).run.run answer c =
      (if Node.reachable o.join c.members then Engine.add o.address .spare
        else throw (Node.noJoinTarget o.join)).run.run answer c := rfl
  rw [hrun]
  split <;> rfl

theorem reachable_iff (hmembers : c.members.map Member.address = addresses) (join : List String) :
    Node.reachable join c.members ↔ join = [] ∨ ∃ a ∈ join, a ∈ addresses := by
  simp [Node.reachable, ← hmembers]

theorem add_of_notMem (hmembers : c.members.map Member.address = addresses) {address : String}
    (hnew : address ∉ addresses) (role : Role) :
    c.add address role = (c.lastId + 1,
      { c with
        members := c.members ++ [⟨c.lastId + 1, address, role⟩]
        lastId := c.lastId + 1 }) := by
  have hnone : c.members.find? (·.address = address) = none := by
    rw [List.find?_eq_none]
    intro m hm heq
    apply hnew
    rw [← hmembers, ← of_decide_eq_true heq]
    exact List.mem_map_of_mem hm
  unfold add
  rw [hnone]

namespace Assembled

theorem empty : Assembled [] empty := ⟨rfl, rfl⟩

theorem members_eq_nil_iff (ha : Assembled addresses c) : c.members = [] ↔ addresses = [] := by
  rw [← ha.members, List.map_eq_nil_iff]

/-- Promotions keep who is a member and who leads. -/
theorem adjustRoles (ha : Assembled addresses c) (voters standbys : Nat) :
    Assembled addresses (c.adjustRoles voters standbys) where
  members := (map_promote (fun _ _ ↦ rfl) voters standbys c.members _ _).trans ha.members
  leader := by
    have hids := map_promote (f := Member.id) (fun _ _ ↦ rfl) voters standbys c.members
      (countRole .voter c.members) (countRole .standBy c.members)
    rw [← List.head?_map, Cluster.adjustRoles, hids, List.head?_map]
    exact ha.leader

/-- A round of rebalancing keeps who is a member and who leads. -/
theorem round (ha : Assembled addresses c) (voters standbys : Nat) :
    Assembled addresses ((Node.rebalance voters standbys).run.run answer c).2 := by
  cases hleader : c.leader with
  | some id =>
    rw [rebalance_of_leader hleader]
    exact ha.adjustRoles voters standbys
  | none =>
    have hempty : c.members = [] := by
      have hhead := ha.leader
      rw [hleader] at hhead
      exact List.head?_eq_none_iff.1 (Option.map_eq_none_iff.1 hhead.symm)
    obtain ⟨members, leader, lastId⟩ := c
    obtain rfl : members = [] := hempty
    obtain rfl : leader = none := hleader
    exact ha

/-- A node that is added beside members is the last of them. -/
theorem add (ha : Assembled addresses c) (hsome : addresses ≠ []) {address : String}
    (hnew : address ∉ addresses) (role : Role) :
    Assembled (addresses ++ [address]) (c.add address role).2 := by
  rw [add_of_notMem ha.members hnew]
  constructor
  case members =>
    rw [List.map_append, ha.members]
    rfl
  case leader =>
    rw [List.head?_append_of_ne_nil _ (mt ha.members_eq_nil_iff.1 hsome)]
    exact ha.leader

/-- The first node leads, and others join it if they find one of their contacts. -/
theorem join (ha : Assembled addresses c) (hnew : o.address ∉ addresses)
    (hcontact : addresses ≠ [] → ∃ a ∈ o.join, a ∈ addresses) :
    (∃ id, ((Node.join o).run.run answer c).1 = .ok id) ∧
      Assembled (addresses ++ [o.address]) ((Node.join o).run.run answer c).2 := by
  by_cases hempty : c.members = []
  · rw [join_of_empty hempty, ha.members_eq_nil_iff.1 hempty]
    exact ⟨⟨_, rfl⟩, rfl, rfl⟩
  · have hsome := mt ha.members_eq_nil_iff.2 hempty
    have hreachable := (reachable_iff ha.members o.join).2 (.inr (hcontact hsome))
    rw [join_of_members hempty, if_pos hreachable]
    exact ⟨⟨_, rfl⟩, ha.add hsome hnew .spare⟩

/-- A node that has joined others has found one of its contacts, if it has been told any. -/
theorem contact_of_join (ha : Assembled addresses c) (hsome : addresses ≠ [])
    (hjoined : ∃ id, ((Node.join o).run.run answer c).1 = .ok id) (htold : o.join ≠ []) :
    ∃ a ∈ o.join, a ∈ addresses := by
  rw [join_of_members (mt ha.members_eq_nil_iff.1 hsome)] at hjoined
  split at hjoined
  case isTrue hreachable => exact ((reachable_iff ha.members o.join).1 hreachable).resolve_left htold
  case isFalse => simp at hjoined

/-- Before a node becomes a member nothing happens but rounds of rebalancing. -/
theorem next (ha : Assembled addresses c) {rest : List Node.Options}
    (hevents : events.filterMap Event.options? = o :: rest) :
    ∃ c' later, Assembled addresses c' ∧ later.filterMap Event.options? = rest ∧
      startUp events c =
        (((Node.join o).run.run answer c').1 ::
            (startUp later ((Node.join o).run.run answer c').2).1,
          (startUp later ((Node.join o).run.run answer c').2).2) := by
  induction events generalizing c with
  | nil => simp at hevents
  | cons event events ih =>
    cases event with
    | ready o' =>
      obtain ⟨rfl, hrest⟩ := List.cons_eq_cons.1 hevents
      exact ⟨c, events, ha, hrest, rfl⟩
    | round voters standbys => exact ih (ha.round voters standbys) hevents

theorem last (ha : Assembled addresses c) (hevents : events.filterMap Event.options? = []) :
    (startUp events c).1 = [] ∧ Assembled addresses (startUp events c).2 := by
  induction events generalizing c with
  | nil => exact ⟨rfl, ha⟩
  | cons event events ih =>
    cases event with
    | ready o => simp [Event.options?] at hevents
    | round voters standbys => exact ih (ha.round voters standbys) hevents

end Assembled

/-! ## Configured clusters -/

/-- A node as it is configured, with its IP address. -/
structure Host where
  config : Config
  ip : String

namespace Host

/-- How the node takes part when it starts for the first time. -/
def options (x : Host) : Node.Options :=
  x.config.options x.ip false

/-- The address at which the cluster knows the node. -/
def address (x : Host) (port : UInt16) : String :=
  Net.Address.make x.ip port.toNat

end Host

/-- The nodes are configured as one cluster in the order of its list. -/
structure Fleet (port : UInt16) (hosts : List Host) : Prop where
  cluster : ∀ x ∈ hosts, x.config.cluster = hosts.map (·.config.node)
  port : ∀ x ∈ hosts, x.config.enginePort = port
  names : (hosts.map (·.config.node)).Nodup
  addresses : (hosts.map Host.ip).Nodup

namespace Fleet

variable {port : UInt16} {hosts before after : List Host} {x first : Host} {others : List Host}

theorem options_address (hfleet : Fleet port hosts) (hx : x ∈ hosts) :
    x.options.address = x.address port := by
  rw [Host.address, ← hfleet.port x hx]
  rfl

/-- A node is told the names of the nodes before it. -/
theorem options_join (hfleet : Fleet port (before ++ x :: after)) :
    x.options.join = before.map fun y ↦ Net.Address.make y.config.node port.toNat := by
  have hx : x ∈ before ++ x :: after := by simp
  have hcluster : x.config.cluster = before.map (·.config.node) ++
      x.config.node :: after.map (·.config.node) := by
    rw [hfleet.cluster x hx, List.map_append, List.map_cons]
  have hearlier : ∀ name ∈ before.map (·.config.node), decide (name ≠ x.config.node) = true := by
    have hnames := hfleet.names
    rw [List.map_append, List.map_cons, List.nodup_append] at hnames
    exact fun name hname ↦ decide_eq_true (hnames.2.2 name hname _ List.mem_cons_self)
  calc x.options.join
    _ = (x.config.cluster.takeWhile (· ≠ x.config.node)).map
        (Net.Address.make · x.config.enginePort.toNat) := by
      have hlisted : x.config.cluster.contains x.config.node := by simp [hcluster]
      change Net.Peers.preceding x.config.node x.config.cluster x.config.enginePort.toNat = _
      rw [Net.Peers.preceding, if_pos hlisted]
    _ = (before.map (·.config.node)).map (Net.Address.make · port.toNat) := by
      rw [hfleet.port x hx, hcluster, List.takeWhile_append_of_pos hearlier,
        List.takeWhile_cons_of_neg (by simp), List.append_nil]
    _ = _ := by
      rw [List.map_map]
      rfl

/-- No node has the address of one before it. -/
theorem address_notMem (hfleet : Fleet port (before ++ x :: after)) :
    x.options.address ∉ before.map (·.address port) := by
  rw [hfleet.options_address (by simp)]
  intro hmem
  obtain ⟨y, hy, hsame⟩ := List.mem_map.1 hmem
  have hip : y.ip = x.ip := Net.Address.make_injective port.toNat hsame
  have hdistinct := hfleet.addresses
  rw [List.map_append, List.map_cons, List.nodup_append] at hdistinct
  exact hdistinct.2.2 y.ip (List.mem_map_of_mem hy) x.ip List.mem_cons_self hip

/-- If the first node is named by its IP address, all the others find it. -/
theorem assembled (hfleet : Fleet port (first :: others)) (hnamed : first.config.node = first.ip)
    {c : Cluster} {events : List Event} (hsplit : first :: others = before ++ after)
    (ha : Assembled (before.map (·.address port)) c)
    (hevents : events.filterMap Event.options? = after.map Host.options) :
    (∀ result ∈ (startUp events c).1, ∃ id, result = .ok id) ∧
      Assembled ((first :: others).map (·.address port)) (startUp events c).2 := by
  -- Those after `before` are still to become members; each finds the first, who is in `before`.
  induction after generalizing before c events with
  | nil =>
    obtain ⟨hresults, hassembled⟩ := ha.last hevents
    rw [hresults, hsplit, List.append_nil]
    exact ⟨nofun, hassembled⟩
  | cons x after ih =>
    obtain ⟨c', later, ha', hlater, hstart⟩ := ha.next hevents
    have hfleet' : Fleet port (before ++ x :: after) := hsplit ▸ hfleet
    have hcontact (hsome : before.map (·.address port) ≠ []) :
        ∃ a ∈ x.options.join, a ∈ before.map (·.address port) := by
      obtain ⟨y, rest, rfl⟩ := List.exists_cons_of_ne_nil (mt List.map_eq_nil_iff.2 hsome)
      obtain ⟨rfl, _⟩ := List.cons_eq_cons.1 hsplit
      refine ⟨first.address port, ?_, by simp⟩
      rw [hfleet'.options_join, Host.address, ← hnamed]
      exact List.mem_map_of_mem List.mem_cons_self
    obtain ⟨⟨id, hid⟩, hjoined⟩ := ha'.join hfleet'.address_notMem hcontact
    rw [hfleet'.options_address (by simp)] at hjoined
    have hnext : before.map (·.address port) ++ [x.address port] =
        (before ++ [x]).map (·.address port) := by simp
    rw [hnext] at hjoined
    have hsplit' : first :: others = (before ++ [x]) ++ after := by simp [hsplit]
    obtain ⟨hresults, hassembled⟩ := ih hsplit' hjoined hlater
    rw [hstart]
    refine ⟨fun result hresult ↦ ?_, hassembled⟩
    obtain rfl | hlaterResult := List.mem_cons.1 hresult
    · exact ⟨id, hid⟩
    · exact hresults result hlaterResult

/-- If the second node becomes a member, the first one is named by its IP address. -/
theorem named_of_ready {second : Host} (hfleet : Fleet port (first :: second :: others))
    {events : List Event}
    (hevents : events.filterMap Event.options? = (first :: second :: others).map Host.options)
    (hready : ∀ result ∈ (startUp events empty).1, ∃ id, result = .ok id) :
    first.config.node = first.ip := by
  obtain ⟨c₁, later, ha₁, hlater, hstart⟩ := Assembled.empty.next hevents
  have hfirst : first.options.address = first.address port := hfleet.options_address (by simp)
  have hjoined := (ha₁.join (o := first.options) (by simp) (by simp)).2
  rw [List.nil_append, hfirst] at hjoined
  obtain ⟨c₂, last, ha₂, _, hstart₂⟩ := hjoined.next hlater
  have hfleet' : Fleet port ([first] ++ second :: others) := hfleet
  have htold : second.options.join = [Net.Address.make first.config.node port.toNat] :=
    hfleet'.options_join
  rw [hstart, hstart₂] at hready
  have hsecond := hready ((Node.join second.options).run.run answer c₂).1 (by simp)
  obtain ⟨a, ha, hmem⟩ := ha₂.contact_of_join (by simp) hsecond (by simp [htold])
  rw [htold, List.mem_singleton] at ha
  rw [ha, List.mem_singleton] at hmem
  exact Net.Address.make_injective port.toNat hmem

/-- A cluster of several nodes assembles exactly if the first of them is named by its IP address. -/
theorem assembles_iff (hfleet : Fleet port (first :: others)) (hsome : others ≠ [])
    {events : List Event}
    (hevents : events.filterMap Event.options? = (first :: others).map Host.options) :
    (∀ result ∈ (startUp events empty).1, ∃ id, result = .ok id) ∧
        Assembled ((first :: others).map (·.address port)) (startUp events empty).2 ↔
      first.config.node = first.ip := by
  obtain ⟨second, others, rfl⟩ := List.exists_cons_of_ne_nil hsome
  constructor
  · exact fun hassembles ↦ hfleet.named_of_ready hevents hassembles.1
  · have hnone : Assembled (([] : List Host).map (·.address port)) empty := Assembled.empty
    exact fun hnamed ↦ hfleet.assembled hnamed (List.nil_append _).symm hnone hevents

/-- A host in a cluster of two. -/
def oneOfTwo (names : List String) (node ip : String) : Host :=
  ⟨{ Config.standard with node, cluster := names }, ip⟩

/-- Two hosts that are named by their IP addresses. -/
def numbered : List Host :=
  let names := ["10.0.0.1", "10.0.0.2"]
  [oneOfTwo names "10.0.0.1" "10.0.0.1", oneOfTwo names "10.0.0.2" "10.0.0.2"]

theorem assembles_iff_numbered :
    ∃ events, (startUp events empty).1 = [.ok 1, .ok 2] ∧
      Assembled ["10.0.0.1:8081", "10.0.0.2:8081"] (startUp events empty).2 := by
  have hfleet : Fleet 8081 numbered :=
    ⟨by decide +kernel, by decide +kernel, by decide +kernel, by decide +kernel⟩
  let events : List Event :=
    [.ready (oneOfTwo ["10.0.0.1", "10.0.0.2"] "10.0.0.1" "10.0.0.1").options, .round 2 0,
      .ready (oneOfTwo ["10.0.0.1", "10.0.0.2"] "10.0.0.2" "10.0.0.2").options]
  have hevents : events.filterMap Event.options? = numbered.map Host.options := rfl
  have hassembles := (assembles_iff hfleet (by simp) hevents).2 rfl
  exact ⟨events, by decide +kernel, hassembles.2⟩

/-- Two hosts with names of their own. -/
def named : List Host :=
  let names := ["n1", "n2"]
  [oneOfTwo names "n1" "10.0.0.1", oneOfTwo names "n2" "10.0.0.2"]

/-- The second host does not find the first, whom it is told by name. -/
theorem not_assembled_named :
    Fleet 8081 named ∧ startUp (named.map fun x ↦ .ready x.options) empty =
      ([.ok 1, .error (Node.noJoinTarget ["n1:8081"])],
        ⟨[⟨1, "10.0.0.1:8081", .voter⟩], some 1, 1⟩) := by
  refine ⟨⟨?_, ?_, ?_, ?_⟩, ?_⟩
  all_goals decide +kernel

end Fleet

end Cluster

end Turnstile
