import Turnstile.Batch
import Turnstile.Client.Basic
import Turnstile.Cluster.Node
import Turnstile.Http.Response
import Turnstile.Store.Basic
import Turnstile.Workload.Bank

/-!
# Commands of a simulation

A simulation is driven by commands: on the store directly or through a named transaction, on the
cluster, on named nodes, on the service as a client would, and on time and tasks.  A command fails
or ends in a reply.
-/

namespace Turnstile.Simulation

open Store (Statement Query Row)

/-- What can be asked of a simulation; times are in milliseconds. -/
inductive Command where
  | createSchema
  | ensureSchema (attempts backoff : Nat)
  | closeStore
  | begin (key : String)
  | commit (key : String)
  | rollback (key : String)
  /-- In the named transaction, or in one of its own. -/
  | exec (key : Option String) (s : Statement)
  /-- In the named transaction, or in one of its own. -/
  | query (key : Option String) (q : Query)
  | runBatch (document : String)
  | executeBatch (operations : List Batch.Operation)
  | openAccounts (r : Workload.Bank.Opening)
  | transfer (r : Workload.Bank.Transfer)
  | balances
  | readSet
  | addElement (value : String)
  | addMember (address : String) (role : Role)
  | setRole (id : Nat) (role : Role)
  | setLeader (id : Option Nat)
  | removeMember (id : Nat)
  | adjustRoles (voters standbys : Nat)
  | transferLeadership (id : Nat)
  | leadingMember
  | allMembers
  | removeById (id : Nat)
  | leaderName
  | memberNames
  | removeByName (name : String)
  | ready (expected : Nat)
  | node (key : String) (o : Cluster.Node.Options)
  | nodeReady (key : String)
  | nodeId (key : String)
  | nodeOpen (key name : String)
  | nodeHandover (key : String)
  | nodeClose (key : String)
  | nodeShutdown (key : String) (grace : Nat)
  | sleep (length : Nat)
  /-- Runs a command as a task, after a pause. -/
  | spawn (key : String) (delay : Nat) (c : Command)
  /-- Waits for a task to end. -/
  | join (key : String)
  /-- Drops a task where it waits. -/
  | abort (key : String)
  | http (r : Http.Request)
  | client (url : String) (c : Client.Call)
  | waitReady (url : String) (attempts interval : Nat)

/-- What a command that succeeds answers. -/
inductive Reply where
  | unit
  | count (n : Nat)
  | rows (rows : List Row)
  | text (s : String)
  | outcome (o : Workload.Bank.OpeningOutcome)
  | optionalId (id : Option Nat)
  | member (m : Option Member)
  | members (members : List Member)
  | name (name : Option String)
  | names (names : List String)
  | response (r : Http.Response)

/-- How a command ends. -/
abbrev Outcome := Except Error Reply

end Turnstile.Simulation
