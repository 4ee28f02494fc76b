import Turnstile.Proofs.Cluster.Election

/-!
# When a cluster settles

Nodes become members one after another in the order of their list, each told to contact all before it
and to promote members until there are as many voters as nodes.  Meanwhile those that are members
already run rounds of rebalancing, and the calls of the rounds come anywhere between each other and
between those of a node that is becoming a member.

The node that bootstraps the cluster leads from then on, since a round elects nobody while somebody
leads.  Every further node is added as a spare, and a round promotes everybody who is a member when it
begins.  So once all nodes are members the cluster is ready exactly if a round has begun since the last
of them was added, and before that the cluster is incomplete.
-/

namespace Turnstile.Cluster

/-! ## Runs -/

/-- The nodes of a list on their way to a cluster of them all. -/
structure Assembly where
  cluster : Cluster
  /-- What the nodes that have asked to become members were answered, in their order. -/
  results : List (Except Error Nat)
  /-- The node that is becoming a member, and what it has left to do. -/
  joining : Option (Node.Options × Program interface (Except Error Nat))
  /-- What the rounds of rebalancing that have begun have left to do. -/
  rounds : List (Program interface (Except Error Unit))
  /-- How many rounds have begun since the last answer. -/
  since : Nat

namespace Assembly

/-- Nobody has asked to become a member. -/
def start : Assembly := ⟨.empty, [], none, [], 0⟩

/-- One call of a node or of a round; a node is answered with its last call, and a round begins with
its first. -/
inductive Step (nodes : List Node.Options) : Assembly → Assembly → Prop where
  /-- The next node of the list asks to become a member. -/
  | ask {a : Assembly} {o : Node.Options} (hidle : a.joining = none)
      (hnext : nodes[a.results.length]? = some o) :
      Step nodes a { a with joining := some (o, (Node.join o).run) }
  | goOn {a : Assembly} {o : Node.Options} {call call' : interface.Call}
      {next : interface.Answer call → Program interface (Except Error Nat)}
      {next' : interface.Answer call' → Program interface (Except Error Nat)}
      (hjoining : a.joining = some (o, .call call next))
      (hrest : next (answer call a.cluster).1 = .call call' next') :
      Step nodes a
        { a with cluster := (answer call a.cluster).2, joining := some (o, .call call' next') }
  | answered {a : Assembly} {o : Node.Options} {call : interface.Call}
      {next : interface.Answer call → Program interface (Except Error Nat)}
      {result : Except Error Nat} (hjoining : a.joining = some (o, .call call next))
      (hrest : next (answer call a.cluster).1 = .done result) :
      Step nodes a
        { a with
          cluster := (answer call a.cluster).2
          results := a.results ++ [result]
          joining := none
          since := 0 }
  /-- A round of a node that is a member. -/
  | begin {a : Assembly} {i id : Nat} {o : Node.Options} {call : interface.Call}
      {next : interface.Answer call → Program interface (Except Error Unit)}
      (hnode : nodes[i]? = some o) (hmember : a.results[i]? = some (.ok id))
      (hround : (Node.rebalance o.voters o.standbys).run = .call call next) :
      Step nodes a
        { a with
          cluster := (answer call a.cluster).2
          rounds := a.rounds ++ [next (answer call a.cluster).1]
          since := a.since + 1 }
  | turn {a : Assembly} {before after : List (Program interface (Except Error Unit))}
      {call : interface.Call} {next : interface.Answer call → Program interface (Except Error Unit)}
      (hrounds : a.rounds = before ++ .call call next :: after) :
      Step nodes a
        { a with
          cluster := (answer call a.cluster).2
          rounds := before ++ next (answer call a.cluster).1 :: after }

/-- What calls one after another lead to. -/
inductive Reachable (nodes : List Node.Options) : Assembly → Prop where
  | start : Reachable nodes start
  | step {a a' : Assembly} : Reachable nodes a → Step nodes a a' → Reachable nodes a'

end Assembly

/-- Several nodes, each of which contacts all before it and wants as many voters as there are nodes. -/
structure Lineup (nodes : List Node.Options) : Prop where
  several : 2 ≤ nodes.length
  distinct : (nodes.map (·.address)).Nodup
  join : ∀ i o, nodes[i]? = some o → o.join = (nodes.take i).map (·.address)
  voters : ∀ o ∈ nodes, o.voters = nodes.length
  standbys : ∀ o ∈ nodes, o.standbys = 0

/-! ## Calls between those of others -/

variable {addresses : List String} {c : Cluster} {o : Node.Options} {α : Type}

/-- Whenever somebody leads, the program leaves the cluster as it is. -/
def Rests : Program interface α → Prop
  | .done _ => True
  | .call call next =>
    ∀ c : Cluster, c.leader ≠ none → (answer call c).2 = c ∧ Rests (next (answer call c).1)

/-- Beside members at the addresses, the program looks at the cluster for a while, and its last call
adds the node as a spare. -/
def Enters (addresses : List String) (address : String) :
    Program interface (Except Error Nat) → Prop
  | .done _ => False
  | .call call next => ∀ c : Cluster, Assembled addresses c →
    (answer call c).2 = c ∧ Enters addresses address (next (answer call c).1) ∨
      (answer call c).2 = (c.add address .spare).2 ∧
        ∃ id, next (answer call c).1 = .done (.ok id)

theorem rests_elect : Rests Node.elect.run := by
  intro c hleader
  obtain ⟨id, hid⟩ := Option.ne_none_iff_exists'.1 hleader
  have hread : (answer .leaderId c).1 = some id := hid
  refine ⟨rfl, ?_⟩
  rw [hread]
  trivial

/-- A round begins with the promotions. -/
theorem rebalance_run (voters standbys : Nat) :
    (Node.rebalance voters standbys).run =
      .call (.adjustRoles voters standbys) fun _ ↦ Node.elect.run :=
  rfl

theorem enters_join (hsome : addresses ≠ []) (hcontact : ∃ a ∈ o.join, a ∈ addresses) :
    Enters addresses o.address (Node.join o).run := by
  intro c ha
  have hempty : (answer .isEmpty c).1 = false :=
    List.isEmpty_eq_false_iff.2 (mt ha.members_eq_nil_iff.1 hsome)
  refine .inl ⟨rfl, ?_⟩
  rw [hempty]
  intro c ha
  have hreachable := (reachable_iff ha.members o.join).2 (.inr hcontact)
  refine .inl ⟨rfl, ?_⟩
  have hnext : Enters addresses o.address
      (if Node.reachable o.join c.members then Engine.add o.address .spare
        else throw (Node.noJoinTarget o.join) : Engine.ClusterAction Nat).run := by
    rw [if_pos hreachable]
    exact fun c _ ↦ .inr ⟨rfl, _, rfl⟩
  exact hnext

theorem Enters.run {p : Program interface (Except Error Nat)} {address : String}
    (hp : Enters addresses address p) (hc : Assembled addresses c) :
    ∃ id, (p.run answer c).1 = .ok id := by
  induction p generalizing c with
  | done => exact absurd hp id
  | call call next ih =>
    obtain ⟨hkeeps, hrest⟩ | ⟨_, id, hdone⟩ := hp c hc
    · refine ih _ hrest ?_
      rw [hkeeps]
      exact hc
    · refine ⟨id, ?_⟩
      rw [Program.run, hdone]
      rfl

/-! ## Promotions -/

/-- If there is room for everybody, everybody becomes a voter. -/
theorem voter_of_mem_promote {voters voterCount standbyCount : Nat} {members : List Member}
    (hroom : voterCount + members.countP (·.role ≠ .voter) ≤ voters) :
    ∀ m ∈ promote voters 0 voterCount standbyCount members, m.role = .voter := by
  induction members generalizing voterCount standbyCount with
  | nil => exact List.forall_mem_nil _
  | cons m rest ih =>
    unfold promote
    by_cases hvoter : m.role = .voter
    · rw [if_neg fun h ↦ h.2 hvoter, if_neg fun h ↦ Nat.not_lt_zero _ h.1]
      rw [List.countP_cons_of_neg (by simp [hvoter])] at hroom
      exact List.forall_mem_cons.2 ⟨hvoter, ih hroom⟩
    · rw [List.countP_cons_of_pos (by simp [hvoter])] at hroom
      rw [if_pos ⟨by omega, hvoter⟩]
      exact List.forall_mem_cons.2 ⟨rfl, ih (by omega)⟩

theorem voter_of_mem_adjustRoles {voters : Nat} (hroom : c.members.length ≤ voters) :
    ∀ m ∈ (c.adjustRoles voters 0).members, m.role = .voter := by
  apply voter_of_mem_promote
  calc countRole .voter c.members + c.members.countP (·.role ≠ .voter)
    _ = c.members.length := by
      have hlength := List.length_eq_countP_add_countP (·.role = .voter) (l := c.members)
      simpa [countRole] using hlength.symm
    _ ≤ voters := hroom

/-! ## Readiness -/

theorem run_ready (hsome : c.members ≠ []) (expected : Nat) :
    ((Membership.ready expected).run.run answer c).1 = Membership.readiness c.members expected := by
  obtain ⟨members, leader, lastId⟩ := c
  obtain ⟨m, rest, rfl⟩ := List.exists_cons_of_ne_nil hsome
  rfl

/-! ## What every run keeps -/

namespace Assembly

variable {nodes : List Node.Options} {a a' : Assembly}

/-- Nobody is a member yet, and the first node may be about to bootstrap the cluster. -/
structure Bootstrapping (nodes : List Node.Options) (a : Assembly) : Prop where
  results : a.results = []
  rounds : a.rounds = []
  joining : ∀ o p, a.joining = some (o, p) → nodes.head? = some o ∧
    p.run answer a.cluster = (.ok 1, ⟨[⟨1, o.address, .voter⟩], some 1, 1⟩)
  cluster : a.joining = none → a.cluster = empty

/-- The first nodes of the list are the members, and the first of them leads. -/
structure Assembling (nodes : List Node.Options) (a : Assembly) : Prop where
  nonempty : a.results ≠ []
  within : a.results.length ≤ nodes.length
  assembled : Assembled ((nodes.take a.results.length).map (·.address)) a.cluster
  first : a.results.head? = a.cluster.leader.map .ok
  succeeded : ∀ result ∈ a.results, ∃ id, result = .ok id
  joining : ∀ o p, a.joining = some (o, p) → nodes[a.results.length]? = some o ∧
    Enters ((nodes.take a.results.length).map (·.address)) o.address p
  rounds : ∀ p ∈ a.rounds, Rests p
  promoted : 0 < a.since → ∀ m ∈ a.cluster.members, m.role = .voter
  spare : a.since = 0 → 2 ≤ a.results.length → ∃ m ∈ a.cluster.members, m.role = .spare

/-- The nodes are becoming members in the order of their list. -/
def InOrder (nodes : List Node.Options) (a : Assembly) : Prop :=
  Bootstrapping nodes a ∨ Assembling nodes a

namespace Assembling

theorem addresses_ne_nil (ha : Assembling nodes a) :
    (nodes.take a.results.length).map (·.address) ≠ [] := by
  have hlength := List.length_pos_of_ne_nil ha.nonempty
  have hwithin := ha.within
  apply List.ne_nil_of_length_pos
  rw [List.length_map, List.length_take]
  omega

theorem members_ne_nil (ha : Assembling nodes a) : a.cluster.members ≠ [] :=
  mt ha.assembled.members_eq_nil_iff.1 ha.addresses_ne_nil

theorem length_members (ha : Assembling nodes a) :
    a.cluster.members.length = a.results.length := by
  have hwithin := ha.within
  rw [← List.length_map Member.address, ha.assembled.members, List.length_map, List.length_take]
  omega

theorem leader_ne_none (ha : Assembling nodes a) : a.cluster.leader ≠ none := by
  rw [ha.assembled.leader, ne_eq, Option.map_eq_none_iff, List.head?_eq_none_iff]
  exact ha.members_ne_nil

end Assembling

variable {o : Node.Options} {call : interface.Call}

theorem inOrder_start (nodes : List Node.Options) : InOrder nodes start :=
  .inl ⟨rfl, rfl, fun _ _ hnone ↦ by simp [start] at hnone, fun _ ↦ rfl⟩

theorem InOrder.ask (hlineup : Lineup nodes) (ha : InOrder nodes a) (hidle : a.joining = none)
    (hnext : nodes[a.results.length]? = some o) :
    InOrder nodes { a with joining := some (o, (Node.join o).run) } := by
  obtain hboot | hassembling := ha
  · refine .inl ⟨hboot.results, hboot.rounds, ?_, fun hnone ↦ by simp at hnone⟩
    rintro o' p hjoining
    obtain ⟨rfl, rfl⟩ := Prod.mk.inj (Option.some.inj hjoining)
    rw [hboot.results, List.length_nil, ← List.head?_eq_getElem?] at hnext
    refine ⟨hnext, ?_⟩
    rw [hboot.cluster hidle]
    exact join_of_empty rfl o
  · refine .inr { hassembling with joining := ?_ }
    rintro o' p hjoining
    obtain ⟨rfl, rfl⟩ := Prod.mk.inj (Option.some.inj hjoining)
    refine ⟨hnext, enters_join hassembling.addresses_ne_nil ?_⟩
    obtain ⟨address, haddress⟩ := List.exists_mem_of_ne_nil _ hassembling.addresses_ne_nil
    exact ⟨address, hlineup.join _ _ hnext ▸ haddress, haddress⟩

/-- Before its last call a node leaves the members as they are. -/
theorem InOrder.goOn {call' : interface.Call}
    {next : interface.Answer call → Program interface (Except Error Nat)}
    {next' : interface.Answer call' → Program interface (Except Error Nat)} (ha : InOrder nodes a)
    (hjoining : a.joining = some (o, .call call next))
    (hrest : next (answer call a.cluster).1 = .call call' next') :
    InOrder nodes
      { a with cluster := (answer call a.cluster).2, joining := some (o, .call call' next') } := by
  obtain hboot | hassembling := ha
  · refine .inl ⟨hboot.results, hboot.rounds, ?_, fun hnone ↦ by simp at hnone⟩
    rintro o' p hp
    obtain ⟨rfl, rfl⟩ := Prod.mk.inj (Option.some.inj hp)
    obtain ⟨hfirst, hrun⟩ := hboot.joining _ _ hjoining
    rw [Program.run, hrest] at hrun
    exact ⟨hfirst, hrun⟩
  · obtain ⟨hnext, henters⟩ := hassembling.joining _ _ hjoining
    obtain ⟨hkeeps, hon⟩ | ⟨_, id, hdone⟩ := henters _ hassembling.assembled
    · rw [hkeeps]
      refine .inr { hassembling with joining := ?_ }
      rintro o' p hp
      obtain ⟨rfl, rfl⟩ := Prod.mk.inj (Option.some.inj hp)
      exact ⟨hnext, hrest ▸ hon⟩
    · simp [hrest] at hdone

theorem Bootstrapping.answered {result : Except Error Nat}
    {next : interface.Answer call → Program interface (Except Error Nat)}
    (hboot : Bootstrapping nodes a) (hjoining : a.joining = some (o, .call call next))
    (hrest : next (answer call a.cluster).1 = .done result) :
    Assembling nodes
      { a with
        cluster := (answer call a.cluster).2
        results := a.results ++ [result]
        joining := none
        since := 0 } := by
  obtain ⟨hfirst, hrun⟩ := hboot.joining _ _ hjoining
  rw [Program.run, hrest] at hrun
  obtain ⟨rfl, hcluster⟩ := Prod.mk.inj hrun
  obtain ⟨others, rfl⟩ := List.head?_eq_some_iff.1 hfirst
  rw [hcluster, hboot.results, hboot.rounds]
  exact
    { nonempty := by simp
      within := by simp
      assembled := ⟨by simp, rfl⟩
      first := rfl
      succeeded := by simp
      joining := by simp
      rounds := by simp
      promoted := by simp
      spare := by simp }

theorem Assembling.answered {result : Except Error Nat}
    {next : interface.Answer call → Program interface (Except Error Nat)} (hlineup : Lineup nodes)
    (ha : Assembling nodes a) (hjoining : a.joining = some (o, .call call next))
    (hrest : next (answer call a.cluster).1 = .done result) :
    Assembling nodes
      { a with
        cluster := (answer call a.cluster).2
        results := a.results ++ [result]
        joining := none
        since := 0 } := by
  obtain ⟨hnext, henters⟩ := ha.joining _ _ hjoining
  obtain ⟨_, hon⟩ | ⟨hadds, id, hdone⟩ := henters _ ha.assembled
  · rw [hrest] at hon
    exact absurd hon not_false
  · obtain rfl := Program.done.inj (hrest.symm.trans hdone)
    have hlength := (List.getElem?_eq_some_iff.1 hnext).1
    have htake : nodes.take (a.results.length + 1) = nodes.take a.results.length ++ [o] := by
      rw [List.take_add_one, hnext]
      rfl
    have hnew : o.address ∉ (nodes.take a.results.length).map (·.address) := by
      have hdistinct := (hlineup.distinct).sublist ((List.take_sublist (a.results.length + 1) nodes).map _)
      rw [htake, List.map_append, List.nodup_append] at hdistinct
      exact fun hmem ↦ hdistinct.2.2 _ hmem _ (List.mem_singleton_self _) rfl
    have hmembers := add_of_notMem ha.assembled.members hnew .spare
    rw [hadds]
    constructor
    case nonempty => simp
    case within =>
      rw [List.length_append, List.length_singleton]
      exact hlength
    case assembled =>
      rw [List.length_append, List.length_singleton, htake, List.map_append]
      exact ha.assembled.add ha.addresses_ne_nil hnew .spare
    case first =>
      rw [List.head?_append_of_ne_nil _ ha.nonempty, ha.first, hmembers]
    case succeeded =>
      intro result hresult
      obtain hearlier | hlast := List.mem_append.1 hresult
      · exact ha.succeeded result hearlier
      · exact ⟨id, List.mem_singleton.1 hlast⟩
    case joining => simp
    case rounds => exact ha.rounds
    case promoted => simp
    case spare =>
      intro _ _
      rw [hmembers]
      exact ⟨_, List.mem_append_right _ (List.mem_singleton_self _), rfl⟩

/-- A round promotes everybody, since there are to be as many voters as nodes. -/
theorem Assembling.begin {next : interface.Answer call → Program interface (Except Error Unit)}
    (hlineup : Lineup nodes) (ha : Assembling nodes a) (hnode : o ∈ nodes)
    (hround : (Node.rebalance o.voters o.standbys).run = .call call next) :
    Assembling nodes
      { a with
        cluster := (answer call a.cluster).2
        rounds := a.rounds ++ [next (answer call a.cluster).1]
        since := a.since + 1 } := by
  rw [rebalance_run, hlineup.voters o hnode, hlineup.standbys o hnode] at hround
  cases hround
  have hroom : a.cluster.members.length ≤ nodes.length := ha.length_members ▸ ha.within
  exact
    { ha with
      assembled := ha.assembled.adjustRoles nodes.length 0
      joining := ha.joining
      rounds := List.forall_mem_append.2 ⟨ha.rounds, List.forall_mem_singleton.2 rests_elect⟩
      promoted := fun _ ↦ voter_of_mem_adjustRoles hroom
      spare := fun hnone ↦ absurd hnone (Nat.succ_ne_zero _) }

/-- After its first call a round leaves the cluster as it is. -/
theorem Assembling.turn {before after : List (Program interface (Except Error Unit))}
    {next : interface.Answer call → Program interface (Except Error Unit)}
    (ha : Assembling nodes a) (hrounds : a.rounds = before ++ .call call next :: after) :
    Assembling nodes
      { a with
        cluster := (answer call a.cluster).2
        rounds := before ++ next (answer call a.cluster).1 :: after } := by
  have hrests : ∀ p ∈ before ++ .call call next :: after, Rests p := hrounds ▸ ha.rounds
  rw [List.forall_mem_append, List.forall_mem_cons] at hrests
  obtain ⟨hbefore, hround, hafter⟩ := hrests
  obtain ⟨hkeeps, hon⟩ := hround a.cluster ha.leader_ne_none
  rw [hkeeps]
  exact
    { ha with
      rounds := List.forall_mem_append.2 ⟨hbefore, List.forall_mem_cons.2 ⟨hon, hafter⟩⟩ }

theorem InOrder.step (hlineup : Lineup nodes) (ha : InOrder nodes a) (hstep : Step nodes a a') :
    InOrder nodes a' := by
  cases hstep with
  | ask hidle hnext => exact ha.ask hlineup hidle hnext
  | goOn hjoining hrest => exact ha.goOn hjoining hrest
  | answered hjoining hrest =>
    obtain hboot | hassembling := ha
    · exact .inr (hboot.answered hjoining hrest)
    · exact .inr (hassembling.answered hlineup hjoining hrest)
  | begin hnode hmember hround =>
    obtain hboot | hassembling := ha
    · simp [hboot.results] at hmember
    · exact .inr (hassembling.begin hlineup (List.mem_of_getElem? hnode) hround)
  | turn hrounds =>
    obtain hboot | hassembling := ha
    · simp [hboot.rounds] at hrounds
    · exact .inr (hassembling.turn hrounds)

theorem Reachable.inOrder (hlineup : Lineup nodes) (hreach : Reachable nodes a) :
    InOrder nodes a := by
  induction hreach with
  | start => exact inOrder_start nodes
  | step _ hstep ih => exact ih.step hlineup hstep

/-! ## Settled clusters -/

/-- What `Membership.ready` answers when it is asked whether all nodes are there. -/
def readiness (nodes : List Node.Options) (a : Assembly) : Except Error Unit :=
  ((Membership.ready nodes.length).run.run answer a.cluster).1

/-- How the nodes become a cluster. -/
structure Settles (nodes : List Node.Options) (a : Assembly) : Prop where
  succeeded : ∀ result ∈ a.results, ∃ id, result = .ok id
  /-- A node that is becoming a member becomes one, and does not wait for others. -/
  succeeds : ∀ o p, a.joining = some (o, p) → ∃ id, (p.run answer a.cluster).1 = .ok id
  members : a.results ≠ [] →
    a.cluster.members.map Member.address = (nodes.take a.results.length).map (·.address)
  leader : a.results ≠ [] → ∃ id m, a.results.head? = some (.ok id) ∧ a.cluster.leader = some id ∧
    a.cluster.member? id = some m ∧ nodes.head?.map (·.address) = some m.address
  ready_iff : a.results ≠ [] →
    (readiness nodes a = .ok () ↔ a.results.length = nodes.length ∧ 0 < a.since)
  incomplete : a.results ≠ [] → a.results.length ≠ nodes.length →
    readiness nodes a = .error (.clusterIncomplete nodes.length a.cluster.members.length)
  spare : a.results.length = nodes.length → a.since = 0 →
    ∃ before m after, a.cluster.members = before ++ m :: after ∧ m.role = .spare ∧
      (∀ m' ∈ before, m'.role ≠ .spare) ∧ readiness nodes a = .error (.nodeNotVoter m.address "spare")

theorem readiness_of_members (hsome : a.cluster.members ≠ []) :
    readiness nodes a = Membership.readiness a.cluster.members nodes.length :=
  run_ready hsome nodes.length

theorem Bootstrapping.settles (hlineup : Lineup nodes) (ha : Bootstrapping nodes a) :
    Settles nodes a where
  succeeded := by simp [ha.results]
  succeeds o p hjoining := by
    obtain ⟨_, hrun⟩ := ha.joining o p hjoining
    exact ⟨1, by rw [hrun]⟩
  members hsome := absurd ha.results hsome
  leader hsome := absurd ha.results hsome
  ready_iff hsome := absurd ha.results hsome
  incomplete hsome := absurd ha.results hsome
  spare hall := by
    have hseveral := hlineup.several
    rw [ha.results, List.length_nil] at hall
    omega

namespace Assembling

theorem leader (ha : Assembling nodes a) : ∃ id m, a.results.head? = some (.ok id) ∧
    a.cluster.leader = some id ∧ a.cluster.member? id = some m ∧
      nodes.head?.map (·.address) = some m.address := by
  obtain ⟨m, others, hmembers⟩ := List.exists_cons_of_ne_nil ha.members_ne_nil
  have hleader : a.cluster.leader = some m.id := by rw [ha.assembled.leader, hmembers]; rfl
  refine ⟨m.id, m, by rw [ha.first, hleader]; rfl, hleader, ?_, ?_⟩
  · rw [member?, hmembers, List.find?_cons_of_pos (by simp)]
  · have hfirst := congrArg List.head? ha.assembled.members
    have hpos := List.length_pos_of_ne_nil ha.nonempty
    rw [hmembers, List.map_cons, List.head?_cons, List.head?_map, List.head?_take,
      if_neg (by omega)] at hfirst
    exact hfirst.symm

theorem incomplete (ha : Assembling nodes a) (hmissing : a.results.length ≠ nodes.length) :
    readiness nodes a = .error (.clusterIncomplete nodes.length a.cluster.members.length) := by
  rw [readiness_of_members ha.members_ne_nil, Membership.readiness,
    if_pos (by rw [ha.length_members]; exact hmissing)]

theorem ready (ha : Assembling nodes a) (hall : a.results.length = nodes.length)
    (hsince : 0 < a.since) : readiness nodes a = .ok () := by
  have hnone : a.cluster.members.find? (·.role = .spare) = none := by
    rw [List.find?_eq_none]
    intro m hm
    simp [ha.promoted hsince m hm]
  rw [readiness_of_members ha.members_ne_nil, Membership.readiness,
    if_neg (by rw [ha.length_members]; exact not_not_intro hall), hnone]

theorem spareFound (hlineup : Lineup nodes) (ha : Assembling nodes a)
    (hall : a.results.length = nodes.length) (hsince : a.since = 0) :
    ∃ before m after, a.cluster.members = before ++ m :: after ∧ m.role = .spare ∧
      (∀ m' ∈ before, m'.role ≠ .spare) ∧
        readiness nodes a = .error (.nodeNotVoter m.address "spare") := by
  obtain ⟨spare, hspare, hrole⟩ := ha.spare hsince (hall ▸ hlineup.several)
  have hsome : (a.cluster.members.find? (·.role = .spare)).isSome := by
    rw [List.find?_isSome]
    exact ⟨spare, hspare, by simpa using hrole⟩
  obtain ⟨m, hm⟩ := Option.isSome_iff_exists.1 hsome
  obtain ⟨hmrole, before, after, hmembers, hbefore⟩ := List.find?_eq_some_iff_append.1 hm
  have hmrole : m.role = .spare := by simpa using hmrole
  refine ⟨before, m, after, hmembers, hmrole, fun m' hm' ↦ by simpa using hbefore m' hm', ?_⟩
  rw [readiness_of_members ha.members_ne_nil, Membership.readiness,
    if_neg (by rw [ha.length_members]; exact not_not_intro hall), hm]
  simp only [hmrole]
  rfl

theorem settles (hlineup : Lineup nodes) (ha : Assembling nodes a) : Settles nodes a where
  succeeded := ha.succeeded
  succeeds o p hjoining := (ha.joining o p hjoining).2.run ha.assembled
  members _ := ha.assembled.members
  leader _ := ha.leader
  incomplete _ hmissing := ha.incomplete hmissing
  spare hall hsince := ha.spareFound hlineup hall hsince
  ready_iff _ := by
    constructor
    · intro hready
      by_cases hall : a.results.length = nodes.length
      · refine ⟨hall, Nat.pos_of_ne_zero fun hsince ↦ ?_⟩
        obtain ⟨_, _, _, _, _, _, hspare⟩ := ha.spareFound hlineup hall hsince
        simp [hspare] at hready
      · simp [ha.incomplete hall] at hready
    · rintro ⟨hall, hsince⟩
      exact ha.ready hall hsince

end Assembling

/-- Nodes that become members in the order of their list settle with the first round that begins when
all are members, and not before. -/
theorem settled (hlineup : Lineup nodes) (hreach : Reachable nodes a) : Settles nodes a := by
  obtain hboot | hassembling := hreach.inOrder hlineup
  · exact hboot.settles hlineup
  · exact hassembling.settles hlineup

/-- Two nodes, of which the second contacts the first. -/
def pair : List Node.Options :=
  [{ Node.Options.standard "10.0.0.1:8081" with voters := 2 },
    { Node.Options.standard "10.0.0.2:8081" with join := ["10.0.0.1:8081"], voters := 2 }]

/-- A round of the first node goes on while the second becomes a member, which is a spare until the next
round begins. -/
theorem settled_pair : ∃ a a',
    a.cluster = ⟨[⟨1, "10.0.0.1:8081", .voter⟩, ⟨2, "10.0.0.2:8081", .spare⟩], some 1, 2⟩ ∧
      a.results = [.ok 1, .ok 2] ∧ a.since = 0 ∧ Settles pair a ∧
    a'.cluster = ⟨[⟨1, "10.0.0.1:8081", .voter⟩, ⟨2, "10.0.0.2:8081", .voter⟩], some 1, 2⟩ ∧
      a'.results = [.ok 1, .ok 2] ∧ a'.since = 1 ∧ Settles pair a' := by
  have hlineup : Lineup pair := by
    refine ⟨by decide, by decide, ?_, by decide, by decide⟩
    intro i o hnode
    rcases i with _ | _ | i
    · cases hnode
      rfl
    · cases hnode
      rfl
    · simp [pair] at hnode
  have hstart : Reachable pair start := .start
  have hboot := ((hstart.step (.ask rfl rfl)).step (.goOn rfl rfl)).step (.goOn rfl rfl)
  have hround := (hboot.step (.answered rfl rfl)).step (.begin (i := 0) rfl rfl rfl)
  have hlooks := (hround.step (.ask rfl rfl)).step (.goOn rfl rfl)
  have hturn := hlooks.step (@Step.turn pair _ [] [] _ _ rfl)
  have hjoined := (hturn.step (.goOn rfl rfl)).step (.answered rfl rfl)
  have hpromoted := hjoined.step (.begin (i := 0) rfl rfl rfl)
  exact ⟨_, _, rfl, rfl, rfl, settled hlineup hjoined, rfl, rfl, rfl, settled hlineup hpromoted⟩

end Assembly

end Turnstile.Cluster
