import Turnstile.Program
import Turnstile.Service
import Turnstile.Simulation.Command

/-!
# What commands ask of the simulated world

Besides the calls of the service there are calls for what commands name: transactions, nodes with
their rounds of rebalancing, and tasks.
-/

namespace Turnstile.Simulation

open Store (Ticket)

/-- A node that commands name. -/
structure NodeState where
  options : Cluster.Node.Options
  /-- The node's id once it is a member. -/
  id : Option Nat
  /-- The task of its rounds of rebalancing. -/
  rounds : Option Nat

/-- What the programs of commands ask of the world. -/
inductive Call where
  | service (c : Service.Call)
  /-- Names a transaction. -/
  | bind (key : String) (t : Ticket)
  /-- Looks a transaction up and drops its name. -/
  | take (key : String)
  | addNode (key : String) (o : Cluster.Node.Options)
  | node (key : String)
  /-- Notes a node's id and starts its rounds, or starts them anew. -/
  | startRounds (key : String) (id : Nat)
  | stopRounds (key : String)
  /-- Runs a command as a task, after a pause. -/
  | spawn (key : String) (delay : Nat) (c : Command)
  /-- Waits for a named task to end and takes its outcome. -/
  | join (key : String)
  /-- Drops a named task where it waits. -/
  | abort (key : String)

/-- The calls of the world and their answers. -/
def interface : Interface where
  Call := Call
  Answer
    | .service c => Service.interface.Answer c
    | .bind _ _ => Unit
    | .take _ => Option Ticket
    | .addNode _ _ => Unit
    | .node _ => Option NodeState
    | .startRounds _ _ => Unit
    | .stopRounds _ => Unit
    | .spawn _ _ _ => Unit
    | .join _ => Outcome
    | .abort _ => Unit

end Turnstile.Simulation
