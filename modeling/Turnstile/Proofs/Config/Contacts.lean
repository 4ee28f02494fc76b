import Mathlib.Data.List.Basic
import Turnstile.Config.Basic
import Turnstile.Proofs.Net.Address

/-!
# Whom a node contacts

The place of a name is where it first occurs in the list of its cluster.  At its first start a node
contacts the names whose places come before its own, so of two names exactly one is told the other and
only the first name of the list is told nobody.  A node that comes back contacts these first, and then
the others that are left.
-/

namespace Turnstile

namespace Net.Peers

variable {names : List String} {node name : String} {port : Nat}

/-! ## The names before a node -/

theorem takeWhile_ne_eq_take (names : List String) (node : String) :
    names.takeWhile (· ≠ node) = names.take (names.idxOf node) := by
  have hsame : (fun name ↦ !decide (name ≠ node)) = (· == node) := by
    funext name
    simp [beq_eq_decide]
  rw [List.takeWhile_eq_take_findIdx_not, hsame, List.idxOf]

theorem preceding_eq (hnode : node ∈ names) (port : Nat) :
    preceding node names port = (names.take (names.idxOf node)).map (Address.make · port) := by
  rw [preceding, if_pos (List.contains_iff_mem.2 hnode), takeWhile_ne_eq_take]

/-- Exactly the names that come before a node are told it. -/
theorem mem_preceding (hnode : node ∈ names) :
    Address.make name port ∈ preceding node names port ↔ names.idxOf name < names.idxOf node := by
  have hshorter : (names.take (names.idxOf node)).length = names.idxOf node :=
    List.length_take_of_le List.idxOf_le_length
  rw [preceding_eq hnode, List.mem_map_of_injective (Address.make_injective port),
    (List.take_prefix _ names).mem_iff_idxOf_lt_length, hshorter]

theorem preceding_eq_nil (hnode : node ∈ names) :
    preceding node names port = [] ↔ names.head? = some node := by
  have hsome : names ≠ [] := List.ne_nil_of_mem hnode
  rw [preceding_eq hnode, List.map_eq_nil_iff, List.take_eq_nil_iff, or_iff_left hsome,
    List.idxOf_eq_zero_iff_eq_nil_or_head_eq, or_iff_right hsome]

/-! ## The names other than a node -/

theorem mem_others : Address.make name port ∈ others node names port ↔ name ∈ names ∧ name ≠ node := by
  rw [others, List.mem_map_of_injective (Address.make_injective port), List.mem_filter,
    decide_eq_true_iff]

/-- The names before a node are the first of those other than it. -/
theorem preceding_prefix_others (node : String) (names : List String) (port : Nat) :
    preceding node names port <+: others node names port := by
  unfold preceding others
  split
  case isTrue =>
    have hkept : (names.takeWhile (· ≠ node)).filter (· ≠ node) = names.takeWhile (· ≠ node) :=
      List.filter_eq_self.2 fun _ hname ↦ List.mem_takeWhile_imp (p := (· ≠ node)) hname
    have hfirst := (List.takeWhile_prefix (l := names) (· ≠ node)).filter (· ≠ node)
    rw [hkept] at hfirst
    exact hfirst.map _
  case isFalse => exact List.nil_prefix

end Net.Peers

namespace Config

/-- The address of a name with the port of the cluster. -/
def peer (c : Config) (name : String) : String :=
  Net.Address.make name c.enginePort.toNat

/-- The configuration of another node of the same cluster. -/
structure Companion (c c' : Config) : Prop where
  cluster : c'.cluster = c.cluster
  port : c'.enginePort = c.enginePort
  listed : c'.node ∈ c.cluster
  other : c'.node ≠ c.node

variable {c c' : Config} {name : String}

theorem mem_contacts_first (hnode : c.node ∈ c.cluster) :
    c.peer name ∈ c.contacts false ↔ c.cluster.idxOf name < c.cluster.idxOf c.node :=
  Net.Peers.mem_preceding hnode

theorem mem_contacts_again :
    c.peer name ∈ c.contacts true ↔ name ∈ c.cluster ∧ name ≠ c.node :=
  Net.Peers.mem_others

/-- Of two nodes one is told the other. -/
theorem Companion.mem_contacts_iff (hnode : c.node ∈ c.cluster) (h : Companion c c') :
    c.peer c'.node ∈ c.contacts false ↔ ¬ c'.peer c.node ∈ c'.contacts false := by
  have hnode' : c'.node ∈ c'.cluster := h.cluster ▸ h.listed
  have hplaces : c.cluster.idxOf c'.node ≠ c.cluster.idxOf c.node :=
    mt (List.idxOf_inj h.listed).1 h.other
  rw [mem_contacts_first hnode, mem_contacts_first hnode', h.cluster]
  omega

/-- The names of a cluster, repeated or not, have an order in which its nodes can start.  A node is told
the names before its own, which leaves one node that is told nobody and puts one of any two before the
other; on its return it is told these and then all the others that are not itself. -/
theorem contacts_in_order (hnode : c.node ∈ c.cluster) :
    c.contacts false <+: c.contacts true ∧
      c.peer c.node ∉ c.contacts false ∧ c.peer c.node ∉ c.contacts true ∧
      (∀ name ∈ c.cluster, name ≠ c.node → c.peer name ∈ c.contacts true) ∧
      (c.contacts false = [] ↔ c.cluster.head? = some c.node) ∧
      (∀ name, c.peer name ∈ c.contacts false ↔ c.cluster.idxOf name < c.cluster.idxOf c.node) ∧
      ∀ c' : Config, Companion c c' →
        (c.peer c'.node ∈ c.contacts false ↔ ¬ c'.peer c.node ∈ c'.contacts false) := by
  have hfirst : c.contacts false <+: c.contacts true :=
    Net.Peers.preceding_prefix_others c.node c.cluster c.enginePort.toNat
  have hown : c.peer c.node ∉ c.contacts true := fun hmem ↦ (mem_contacts_again.1 hmem).2 rfl
  refine ⟨hfirst, fun hmem ↦ hown (hfirst.subset hmem), hown, ?_, ?_, ?_, ?_⟩
  · exact fun name hname hother ↦ mem_contacts_again.2 ⟨hname, hother⟩
  · exact Net.Peers.preceding_eq_nil hnode
  · exact fun name ↦ mem_contacts_first hnode
  · exact fun c' hc' ↦ hc'.mem_contacts_iff hnode

/-- A node of a cluster whose list has a name twice. -/
def repeating (node : String) : Config :=
  { standard with node, cluster := ["n2", "::1", "n2", "n1"] }

theorem contacts_in_order_repeating :
    "::1" ∈ (repeating "::1").cluster ∧ Companion (repeating "::1") (repeating "n1") ∧
      (repeating "::1").contacts false = ["n2:8081"] ∧
      (repeating "::1").contacts true = ["n2:8081", "n2:8081", "n1:8081"] ∧
      "[::1]:8081" ∈ (repeating "n1").contacts false := by
  have hnode : (repeating "::1").node ∈ (repeating "::1").cluster := by decide
  have hcompanion : Companion (repeating "::1") (repeating "n1") :=
    ⟨rfl, rfl, by decide, by decide⟩
  obtain ⟨_, _, _, _, _, _, hpairs⟩ := contacts_in_order hnode
  have hlater : (repeating "::1").peer "n1" ∉ (repeating "::1").contacts false := by decide +kernel
  exact ⟨hnode, hcompanion, by decide +kernel, by decide +kernel,
    Decidable.not_not.1 fun hmem ↦ hlater ((hpairs _ hcompanion).2 hmem)⟩

end Config

end Turnstile
