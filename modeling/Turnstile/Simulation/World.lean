import Turnstile.Simulation.Script

/-!
# The simulated world

A world holds a service, the transactions and nodes that commands name, a clock, and the tasks.  A
task has a place at which it waits, with the timers it has set, or is lined up to be run.  Time is
virtual: it moves only when no task can run.
-/

namespace Turnstile.Simulation

open Store (Ticket)

/-- When a timer goes off; of two at one time the one that was set first goes first. -/
structure Timer where
  time : Nat
  number : Nat
deriving DecidableEq, Repr

/-- Whether a timer goes off before another one. -/
def Timer.before (a b : Timer) : Bool :=
  a.time < b.time || (a.time == b.time && a.number < b.number)

/-- What is left of a task.  A program that waits stands at the call for which it waits, with the
timer that ends the wait, once there is one. -/
inductive Task : Type 1 where
  | fresh (a : Activity interface Outcome)
  | running (p : Program interface Outcome) (alarm : Option Timer)
  | limited {α : Type} (started : Nat) (limit : Nat) (deadline : Option Timer)
      (work : Program interface α) (alarm : Option Timer)
      (finish : Option α → Duration → Program interface Outcome)
  | pausing (alarm : Timer) (next : Activity interface Outcome)
  /-- Rounds of rebalancing, the next one due at a time and with a timer once it is awaited. -/
  | rounds (period due : Nat) (alarm : Option Timer) (voters standbys : Nat)

/-- The call at which a program stands. -/
def nextCall? {α : Type} : Program interface α → Option Call
  | .done _ => none
  | .call c _ => some c

/-- The ticket of a call on the store. -/
def ticketOf? : Call → Option Ticket
  | .service (.store c) => c.ticket?
  | _ => none

/-- The ticket that a task holds or waits with. -/
def Task.ticket? : Task → Option Ticket
  | .running p _ => nextCall? p >>= ticketOf?
  | .limited _ _ _ work _ _ => nextCall? work >>= ticketOf?
  | _ => none

/-- The timers that a task has set. -/
def Task.timers : Task → List Timer
  | .fresh _ => []
  | .running _ alarm => alarm.toList
  | .limited _ _ deadline _ alarm _ => deadline.toList ++ alarm.toList
  | .pausing alarm _ => [alarm]
  | .rounds _ _ alarm _ _ => alarm.toList

/-- Whether a task waits for a named task to end. -/
def Task.joins (key : String) : Task → Bool
  | .running p _ =>
    match nextCall? p with
    | some (.join k) => k == key
    | _ => false
  | _ => false

/-- A task with its number and, if it was spawned by a command, its name. -/
structure Job : Type 1 where
  id : Nat
  key : Option String
  task : Task

/-- The whole state of a simulation. -/
structure World : Type 1 where
  /-- How the node that answers requests is set up. -/
  context : Http.Context
  service : Service
  transactions : List (String × Ticket)
  nodes : List (String × NodeState)
  /-- Milliseconds since the simulation began. -/
  clock : Nat
  jobs : List Job
  /-- The tasks that can run, in the order in which they became able to. -/
  ready : List Nat
  /-- The outcomes of named tasks that have ended. -/
  finished : List (String × Outcome)
  nextJob : Nat
  nextTimer : Nat

namespace World

/-- The job with a number. -/
def job? (w : World) (id : Nat) : Option Job :=
  w.jobs.find? (·.id = id)

/-- Lines a task up to be run, unless it already is. -/
def wake (w : World) (id : Nat) : World :=
  if w.ready.contains id then w else { w with ready := w.ready ++ [id] }

/-- Adds a task and lines it up. -/
def addJob (w : World) (key : Option String) (task : Task) : World :=
  let job : Job := ⟨w.nextJob, key, task⟩
  { w with jobs := w.jobs ++ [job], ready := w.ready ++ [w.nextJob], nextJob := w.nextJob + 1 }

/-- Forgets a task. -/
def removeJob (w : World) (id : Nat) : World :=
  { w with jobs := w.jobs.filter (·.id ≠ id), ready := w.ready.filter (· ≠ id) }

/-- Keeps what is left of a task. -/
def setTask (w : World) (id : Nat) (task : Task) : World :=
  let jobs := w.jobs.map fun j ↦ if j.id = id then (⟨j.id, j.key, task⟩ : Job) else j
  { w with jobs }

/-- A timer that goes off at a time. -/
def newTimer (w : World) (time : Nat) : Timer × World :=
  (⟨time, w.nextTimer⟩, { w with nextTimer := w.nextTimer + 1 })

/-- Wakes the task to which the writer lock has been handed since `before`. -/
def wakeHolder (w : World) (before : Option Ticket) : World :=
  match w.service.store.lock.holder with
  | none => w
  | some t =>
    if before = some t then w
    else
      match w.jobs.find? fun j ↦ Task.ticket? j.task == some t with
      | some j => w.wake j.id
      | none => w

/-- The world with another service. -/
def setService (w : World) (service : Service) : World :=
  { w with service : World }.wakeHolder w.service.store.lock.holder

/-- Gives up what a dropped program holds: its transaction or its place in the queue. -/
def release (w : World) (t : Option Ticket) : World :=
  match t with
  | none => w
  | some t => w.setService { w.service with store := w.service.store.endTransaction t }

/-! ## Calls -/

/-- Names a node's rounds by the task that runs them. -/
def setRounds (w : World) (key : String) (rounds : Option Nat) : World :=
  let nodes := w.nodes.map fun n ↦ if n.1 = key then (key, { n.2 with rounds }) else n
  { w with nodes }

/-- Notes the id of a node. -/
def setNodeId (w : World) (key : String) (id : Nat) : World :=
  let nodes := w.nodes.map fun n ↦ if n.1 = key then (key, { n.2 with id := some id }) else n
  { w with nodes }

/-- Stops a node's rounds. -/
def stopRounds (w : World) (key : String) : World :=
  match w.nodes.lookup key with
  | some ⟨_, _, some job⟩ => (w.removeJob job).setRounds key none
  | _ => w

/-- Starts a node's rounds in place of those that run.  Without a period there are none. -/
def startRounds (w : World) (key : String) (id : Nat) : World :=
  let w := (w.stopRounds key).setNodeId key id
  match w.nodes.lookup key with
  | none => w
  | some n =>
    if n.options.rolesPeriod = 0 then w
    else
      let task := Task.rounds n.options.rolesPeriod w.clock none n.options.voters n.options.standbys
      (w.addJob none task).setRounds key (some w.nextJob)

/-- No task of a name is running or has ended. -/
def noTask (key : String) : Error :=
  .internal ("no task named " ++ key)

/-- Takes the outcome of a task that has ended. -/
def takeOutcome (w : World) (key : String) : Outcome × World :=
  match w.finished.lookup key with
  | some outcome => (outcome, { w with finished := w.finished.filter (·.1 ≠ key) })
  | none => (.error (noTask key), w)

/-- Drops a task where it waits. -/
def abort (w : World) (key : String) : World :=
  match w.jobs.find? (·.key = some key) with
  | some j => (w.removeJob j.id).release (Task.ticket? j.task)
  | none => w

/-- The answer to a call and the world after it. -/
def answer : (c : interface.Call) → World → interface.Answer c × World
  | .service c, w =>
    let (result, service) := Service.answer c w.service
    (result, w.setService service)
  | .bind key t, w =>
    ((), { w with transactions := (key, t) :: w.transactions.filter (·.1 ≠ key) })
  | .take key, w =>
    (w.transactions.lookup key, { w with transactions := w.transactions.filter (·.1 ≠ key) })
  | .addNode key o, w => ((), { w with nodes := (key, ⟨o, none, none⟩) :: w.nodes })
  | .node key, w => (w.nodes.lookup key, w)
  | .startRounds key id, w => ((), w.startRounds key id)
  | .stopRounds key, w => ((), w.stopRounds key)
  | .spawn key delay c, w =>
    ((), w.addJob (some key) (.fresh (.after delay (activity w.context c))))
  | .join key, w => w.takeOutcome key
  | .abort key, w => ((), w.abort key)

end World

end Turnstile.Simulation
