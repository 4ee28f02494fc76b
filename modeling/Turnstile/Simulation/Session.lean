import Turnstile.Simulation.Scheduler

/-!
# Sessions

A session is a world to which commands are given one after another; each runs in the foreground to
its end.  Tasks that it makes able to run have their turn while a later command waits, except after
commands that let them run at once.
-/

namespace Turnstile.Simulation

/-- How a session starts. -/
structure Setup where
  context : Http.Context
  /-- How long writers wait for the lock, in milliseconds. -/
  busyTimeout : Nat
  /-- Whether the table exists. -/
  schema : Bool
  /-- The members, as addresses with roles. -/
  members : List (String × Role)
  leader : Option Nat

/-- The service before the first command. -/
def Setup.service (s : Setup) : Service :=
  let service := Service.fresh s.busyTimeout
  let store := if s.schema then service.store.createSchema.2 else service.store
  let cluster := s.members.foldl (fun c m ↦ (c.add m.1 m.2).2) service.cluster
  { service with store, cluster := { cluster with leader := s.leader } }

/-- The world before the first command. -/
def Setup.world (s : Setup) : World where
  context := s.context
  service := s.service
  transactions := []
  nodes := []
  clock := 0
  jobs := []
  ready := []
  finished := []
  nextJob := 0
  nextTimer := 0

/-- More turns than the tasks of any session take while one command runs. -/
def turns : Nat := 1000000000

/-- The command never ends. -/
def stuck : Error :=
  .internal "the command waits for what never happens"

/-- Runs one command to its end. -/
def World.run (w : World) (c : Command) : Outcome × World :=
  let foreground := w.nextJob
  let w := w.addJob none (.fresh (activity w.context c))
  let (outcome, w) := runForeground foreground turns w
  let w := if c.settles then drain none turns w else w
  (outcome.getD (.error stuck), w)

end Turnstile.Simulation
