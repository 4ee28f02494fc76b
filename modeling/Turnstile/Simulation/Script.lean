import Turnstile.Activity
import Turnstile.Client.Waiting
import Turnstile.Http.Router
import Turnstile.Server.Schema
import Turnstile.Server.Shutdown
import Turnstile.Simulation.Interface

/-!
# What commands do

Every command is an activity over the calls of the world.  A statement or query on a named
transaction takes the name for as long as it runs; ending the transaction drops the name.  Clients
find nobody listening.
-/

namespace Turnstile.Simulation

open Service (ServiceAction onStore onCluster)
open Store (Ticket)
open Workload

/-- Actions on the world. -/
abbrev WorldAction (α : Type) : Type :=
  Action interface α

/-- A call that cannot fail, as a step of an action. -/
def ask (c : interface.Call) : WorldAction (interface.Answer c) :=
  ExceptT.lift (Program.ask c)

/-- A call of the service as a program over the world. -/
def viaService (c : Service.interface.Call) :
    Program interface (Service.interface.Answer c) :=
  Program.ask (I := interface) (.service c)

/-- An action on the service as one on the world. -/
def onService {α : Type} (p : ServiceAction α) : WorldAction α :=
  p.interpret viaService

/-- The activity of an action, with its result as a reply. -/
def perform {α : Type} (reply : α → Reply) (p : WorldAction α) : Activity interface Outcome :=
  .run (p.run.bind fun result ↦ .done (result.map reply))

/-- The activity of an action on the store. -/
def performStore {α : Type} (reply : α → Reply) (p : Database.DbAction α) :
    Activity interface Outcome :=
  perform reply (onService (onStore p))

/-- The activity of an action on the cluster. -/
def performCluster {α : Type} (reply : α → Reply) (p : Engine.ClusterAction α) :
    Activity interface Outcome :=
  perform reply (onService (onCluster p))

/-- The reply of an action that has nothing to tell. -/
def done : Unit → Reply := fun _ ↦ .unit

/-- No transaction has the name. -/
def noTransaction (key : String) : Error :=
  .internal ("no transaction named " ++ key)

/-- No node has the name. -/
def noNode (key : String) : Error :=
  .internal ("no node named " ++ key)

/-- Takes the ticket of a named transaction. -/
def takeTransaction (key : String) : WorldAction Ticket := do
  let ticket : Option Ticket ← ask (.take key)
  match ticket with
  | some t => return t
  | none => throw (noTransaction key)

/-- Uses a named transaction, which keeps its name. -/
def withTransaction {α : Type} (key : String) (use : Ticket → Database.DbAction α) :
    WorldAction α := do
  let t ← takeTransaction key
  let result ← ExceptT.lift (onService (onStore (use t))).run
  ask (.bind key t)
  ExceptT.mk (.done result)

/-- Begins a transaction under a name. -/
def beginNamed (key : String) : WorldAction Unit := do
  let t ← onService (onStore Database.begin)
  ask (.bind key t)

/-- Ends a named transaction. -/
def endNamed (key : String) (finish : Ticket → Database.DbAction Unit) : WorldAction Unit := do
  let t ← takeTransaction key
  onService (onStore (finish t))

/-- The state of a named node. -/
def node (key : String) : WorldAction NodeState := do
  let found : Option NodeState ← ask (.node key)
  match found with
  | some n => return n
  | none => throw (noNode key)

/-- Makes a node a member and starts its rounds. -/
def nodeReady (key : String) : WorldAction Unit := do
  let n ← node key
  let id ← onService (onCluster (Cluster.Node.join n.options))
  ask (.startRounds key id)

/-- Hands leadership over from a node. -/
def nodeHandover (key : String) : WorldAction Unit := do
  let n ← node key
  onService (onCluster (Cluster.Node.handover n.id))

/-- Closes a node. -/
def nodeClose (key : String) : WorldAction Unit :=
  ask (.stopRounds key)

/-- The calls of waiting, made by a client that finds nobody listening. -/
def onNobody (url : String) :
    (c : Client.Waiting.interface.Call) →
      Program interface (Client.Waiting.interface.Answer c)
  | .poll => .done (Client.send Client.nobodyListens url .ready)
  | .pause length => viaService (.pause length)

/-- What a command does at a node that is set up in a given way. -/
def activity (ctx : Http.Context) : Command → Activity interface Outcome
  | .createSchema => performStore done Database.createSchema
  | .ensureSchema attempts backoff =>
    .run (((Server.Schema.ensure attempts backoff).interpret Server.Schema.onService).interpret
      viaService |>.bind fun result ↦ .done (result.map done))
  | .closeStore => performStore done Database.close
  | .begin key => perform done (beginNamed key)
  | .commit key => perform done (endNamed key Database.commit)
  | .rollback key => perform done (endNamed key Database.rollback)
  | .exec (some key) s => perform .count (withTransaction key fun t ↦ Database.exec t s)
  | .exec none s => performStore .count (Database.execAlone s)
  | .query (some key) q => perform .rows (withTransaction key fun t ↦ Database.query t q)
  | .query none q => performStore .rows (Database.queryAlone q)
  | .runBatch document => performStore .text (Append.run document)
  | .executeBatch operations => performStore .text (Append.execute operations)
  | .openAccounts r => performStore .outcome (Bank.openAccounts r)
  | .transfer r => performStore done (Bank.transfer r)
  | .balances => performStore .text Bank.balances
  | .readSet => performStore .text ValueSet.elements
  | .addElement value => performStore .text (ValueSet.add value)
  | .addMember address role => performCluster .count (Engine.add address role)
  | .setRole id role => performCluster done (Engine.setRole id role)
  | .setLeader id => performCluster done (Engine.setLeader id)
  | .removeMember id => performCluster done (Engine.remove id)
  | .adjustRoles voters standbys => performCluster done (Engine.adjustRoles voters standbys)
  | .transferLeadership id => performCluster .optionalId (Engine.transferLeadership id)
  | .leadingMember => performCluster .member Membership.leadingMember
  | .allMembers => performCluster .members Membership.allMembers
  | .removeById id => performCluster done (Membership.removeById id)
  | .leaderName => performCluster .name (Membership.leader ctx.directory)
  | .memberNames => performCluster .names (Membership.members ctx.directory)
  | .removeByName name => performCluster done (Membership.remove ctx.directory name)
  | .ready expected => performCluster done (Membership.ready expected)
  | .node key o => perform done (ask (.addNode key o))
  | .nodeReady key => perform done (nodeReady key)
  | .nodeId key => perform (fun n ↦ .optionalId n.id) (node key)
  | .nodeOpen key name => perform done do
      let n ← node key
      ExceptT.mk (.done (Cluster.Node.openDatabase n.id name))
  | .nodeHandover key => perform done (nodeHandover key)
  | .nodeClose key => perform done (nodeClose key)
  | .nodeShutdown key grace =>
    (Server.shutdown grace (nodeHandover key).run
      (onService (onStore Database.close)).run (nodeClose key).run).map (·.map done)
  | .sleep length => .run (viaService (.pause length) |>.bind fun _ ↦ .done (.ok .unit))
  | .spawn key delay c => perform done (ask (.spawn key delay c))
  | .join key => .run (Program.ask (I := interface) (.join key))
  | .abort key => perform done (ask (.abort key))
  | .http r => ((Http.serve ctx r).interpret viaService).map fun response ↦
      .ok (.response response)
  | .client url c => .run (.done ((Client.send Client.nobodyListens url c).map .text))
  | .waitReady url attempts interval =>
    .run ((Client.Waiting.waitReady attempts interval).interpret (onNobody url) |>.bind
      fun result ↦ .done (result.map fun _ ↦ .text "ready"))

/-- Whether the tasks that can run are run before the next command. -/
def Command.settles : Command → Bool
  | .sleep _ => true
  | .spawn _ _ _ => true
  | .nodeReady _ => true
  | _ => false

end Turnstile.Simulation
