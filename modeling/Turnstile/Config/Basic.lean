import Turnstile.Cluster.Node
import Turnstile.Net.Peers

/-!
# The configuration of a node

What a node is told before it starts, with a value for everything that it is not told.  A
configuration is checked as a whole: the first rule that it breaks is reported.
-/

namespace Turnstile

namespace Config

/-- How the addresses of members get their names. -/
inductive NameSource where
  /-- By asking the name service of the system. -/
  | dns
  /-- By a fixed table. -/
  | table
deriving DecidableEq, Repr

/-- The table from addresses to names, in the order of the addresses, and whether it counts. -/
structure ResolverSettings where
  kind : NameSource := .dns
  hosts : List (String × String) := []
deriving DecidableEq, Repr

/-- How the bank works. -/
structure BankSettings where
  /-- Whether a conflict in account creation is shown instead of answered `nil`. -/
  surfaceInitContention : Bool := false
deriving DecidableEq, Repr

end Config

open Config (ResolverSettings BankSettings)

/-- The configuration of a node; times are in milliseconds. -/
structure Config where
  /-- The node's name. -/
  node : String := "localhost"
  /-- The names of all nodes of the cluster, in the order in which they start. -/
  cluster : List String := []
  /-- The data directory. -/
  dir : String := "./txgate-data"
  apiPort : UInt16 := 8080
  /-- The port of the engine, if it is given. -/
  enginePort? : Option UInt16 := none
  /-- The average latency of the network, one way. -/
  latency : UInt64 := 5
  /-- The deadline of a request, if it is given. -/
  requestTimeout? : Option UInt64 := none
  /-- How often the creation of the schema is attempted. -/
  schemaAttempts : UInt32 := 10
  /-- The pause between two attempts. -/
  schemaBackoff : UInt64 := 250
  /-- How long the handover of leadership may take when the node stops. -/
  handoverGrace : UInt64 := 1000
  /-- How long a writer waits for the lock. -/
  busyTimeout : UInt64 := 0
  /-- The time between two rounds of rebalancing. -/
  rolesPeriod : UInt64 := 1000
  resolver : ResolverSettings := {}
  bank : BankSettings := {}
  logLevel : String := "info"
deriving DecidableEq, Repr

namespace Config

/-- The configuration of a node that is told nothing. -/
def standard : Config := {}

/-- The port of the engine: the one after the API port unless it is given.  After the last port
there is none, so that the last port itself is taken, which no valid configuration has. -/
def enginePort (c : Config) : UInt16 :=
  c.enginePort?.getD (if c.apiPort = 65535 then 65535 else c.apiPort + 1)

/-- The deadline of a request: a hundred latencies unless it is given. -/
def requestTimeout (c : Config) : Nat :=
  match c.requestTimeout? with
  | some timeout => timeout.toNat
  | none => 100 * c.latency.toNat

/-- The names of the nodes that are expected; a node that is told no cluster expects itself. -/
def expectedNodes (c : Config) : List String :=
  if c.cluster.isEmpty then [c.node] else c.cluster

/-- A rule that a configuration breaks. -/
inductive Fault where
  | emptyNode
  | foreignNode (node : String) (cluster : List String)
  | portsCoincide
  | noSchemaAttempt
  | emptyTable
  /-- The members of a cluster live in one process, so one node is all that there can be. -/
  | tooManyNodes (count : Nat)
deriving DecidableEq, Repr

/-- What is said about a broken rule. -/
def Fault.message : Fault → String
  | emptyNode => "node name is empty"
  | foreignNode node cluster =>
    "node " ++ node ++ " is not part of cluster " ++ String.intercalate "," cluster
  | portsCoincide => "replication port must differ from API port"
  | noSchemaAttempt => "schema_retries must be > 0"
  | emptyTable => "static resolver needs at least one host entry"
  | tooManyNodes count =>
    "the in-process engine cannot span " ++ Numeral.write count ++
      " node processes; run a single-node cluster"

/-- The failure that a broken rule is. -/
def Fault.error (f : Fault) : Error :=
  .invalidConfig f.message

/-- Checks the configuration by itself. -/
def validate (c : Config) : Except Fault Unit :=
  if c.node.isEmpty then .error .emptyNode
  else if !c.cluster.isEmpty && !c.cluster.contains c.node then
    .error (.foreignNode c.node c.cluster)
  else if c.enginePort = c.apiPort then .error .portsCoincide
  else if c.schemaAttempts = 0 then .error .noSchemaAttempt
  else if c.resolver.kind = .table ∧ c.resolver.hosts.isEmpty then .error .emptyTable
  else .ok ()

/-- Checks that the engine can do what the configuration asks for. -/
def checkScope (c : Config) : Except Fault Unit :=
  if 1 < c.cluster.length then .error (.tooManyNodes c.cluster.length) else .ok ()

/-- The addresses that the node contacts when it joins: those of the nodes before it, or of all
others if it comes back after its removal. -/
def contacts (c : Config) (rejoin : Bool) : List String :=
  if rejoin then Net.Peers.others c.node c.cluster c.enginePort.toNat
  else Net.Peers.preceding c.node c.cluster c.enginePort.toNat

/-- How the node takes part in its cluster, given its IP address.  A cluster of several nodes has as
many voters. -/
def options (c : Config) (ip : String) (rejoin : Bool) : Cluster.Node.Options :=
  let base := Cluster.Node.Options.standard (Net.Address.make ip c.enginePort.toNat)
  { base with
    join := c.contacts rejoin
    voters := if 1 < c.cluster.length then c.cluster.length else base.voters
    latency := c.latency.toNat
    rolesPeriod := c.rolesPeriod.toNat
    busyTimeout := c.busyTimeout.toNat }

end Config

end Turnstile
