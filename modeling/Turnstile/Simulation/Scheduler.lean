import Turnstile.Simulation.World

/-!
# Running tasks

A task runs until it has to wait: for the writer lock, for a pause to pass, for a deadline, or for
another task.  One task is in the foreground; whenever it can go on it does, before the others have
their turn in the order in which they became able to run.  When nobody can run, the clock moves to
the next timer and wakes those it goes off for.

A wait for the lock ends when the lock has been handed over, and otherwise when the patience of the
store is at an end.  Only then does a deadline count, and work that has passed it is dropped.
-/

namespace Turnstile.Simulation

/-- Why a call is not answered yet. -/
inductive Wait where
  | none
  /-- At most so many milliseconds. -/
  | time (length : Nat)
  | task

/-- Whether a call has to wait. -/
def Wait.of (c : Call) (w : World) : Wait :=
  match c with
  | .service (.pause length) => .time length
  | .service (.store c) =>
    match c.waitsFor? with
    | some t =>
      if w.service.store.lock.holder = some t then .none else .time w.service.store.busyTimeout
    | .none => .none
  | .join key => if w.jobs.any (·.key = some key) then .task else .none
  | _ => .none

/-- How far a program has come. -/
inductive Progress (α : Type) where
  | ended (a : α)
  | waits (p : Program interface α) (alarm : Option Timer)

/-- Runs a program until it ends or has to wait, given the timer of the wait at which it stands. -/
def advance {α : Type} : Program interface α → Option Timer → World → Progress α × World
  | .done a, _, w => (.ended a, w)
  | .call c next, alarm, w =>
    match Wait.of c w with
    | .none => advance (next (World.answer c w).1) none (World.answer c w).2
    | .task => (.waits (.call c next) none, w)
    | .time length =>
      let (timer, w) := alarm.elim (w.newTimer (w.clock + length)) fun timer ↦ (timer, w)
      if timer.time ≤ w.clock then advance (next (World.answer c w).1) none (World.answer c w).2
      else (.waits (.call c next) (some timer), w)

/-- Notes the end of a task and wakes those that wait for it. -/
def finishJob (w : World) (j : Job) (outcome : Outcome) : World :=
  let w := w.removeJob j.id
  match j.key with
  | none => w
  | some key =>
    let w := { w with finished := (key, outcome) :: w.finished.filter (·.1 ≠ key) }
    (w.jobs.filter fun other ↦ Task.joins key other.task).foldl (fun w other ↦ w.wake other.id) w

/-- Runs the program of a task. -/
def runProgram (w : World) (j : Job) (p : Program interface Outcome) (alarm : Option Timer) :
    Option Outcome × World :=
  match advance p alarm w with
  | (.ended outcome, w) => (some outcome, finishJob w j outcome)
  | (.waits p alarm, w) => (none, w.setTask j.id (.running p alarm))

/-- Runs limited work of a task, and what follows it. -/
def runLimited {α : Type} (w : World) (j : Job) (started limit : Nat) (deadline : Option Timer)
    (work : Program interface α) (alarm : Option Timer)
    (finish : Option α → Duration → Program interface Outcome) : Option Outcome × World :=
  match advance work alarm w with
  | (.ended a, w) =>
    runProgram w j (finish (some a) (.ofMillis (w.clock - started))) none
  | (.waits work alarm, w) =>
    let (timer, w) := deadline.elim (w.newTimer (started + limit)) fun timer ↦ (timer, w)
    if timer.time ≤ w.clock then
      let w := w.release (nextCall? work >>= ticketOf?)
      runProgram w j (finish none (.ofMillis (w.clock - started))) none
    else (none, w.setTask j.id (.limited started limit (some timer) work alarm finish))

/-- Starts an activity of a task. -/
def startActivity (w : World) (j : Job) : Activity interface Outcome → Option Outcome × World
  | .run p => runProgram w j p none
  | .limited limit work finish => runLimited w j w.clock limit none work none finish
  | .after pause next =>
    if pause = 0 then startActivity w j next
    else
      let (timer, w) := w.newTimer (w.clock + pause)
      (none, w.setTask j.id (.pausing timer next))

/-- Runs a round of rebalancing if one is due, and awaits the next. -/
def runRound (w : World) (j : Job) (period due : Nat) (alarm : Option Timer)
    (voters standbys : Nat) : World :=
  if due ≤ w.clock then
    let cluster :=
      ((Cluster.Node.rebalance voters standbys).run.run Cluster.answer w.service.cluster).2
    let (timer, w) := w.newTimer (due + period)
    let service := { w.service with cluster }
    { w with service }.setTask j.id (.rounds period (due + period) (some timer) voters standbys)
  else w.setTask j.id (.rounds period due alarm voters standbys)

/-- Runs a task until it ends or has to wait. -/
def runJob (w : World) (j : Job) : Option Outcome × World :=
  match j.task with
  | .fresh a => startActivity w j a
  | .running p alarm => runProgram w j p alarm
  | .limited started limit deadline work alarm finish =>
    runLimited w j started limit deadline work alarm finish
  | .pausing alarm next => if alarm.time ≤ w.clock then startActivity w j next else (none, w)
  | .rounds period due alarm voters standbys =>
    (none, runRound w j period due alarm voters standbys)

/-- Runs the tasks that can run, other than the one in the foreground, until none can.  The fuel
bounds how many turns they have. -/
def drain (foreground : Option Nat) : Nat → World → World
  | 0, w => w
  | fuel + 1, w =>
    match w.ready.find? fun id ↦ some id ≠ foreground with
    | none => w
    | some id =>
      let w := { w with ready := w.ready.filter (· ≠ id) }
      match w.job? id with
      | none => drain foreground fuel w
      | some j => drain foreground fuel (runJob w j).2

/-- The timers that are set, with their tasks. -/
def timers (w : World) : List (Timer × Nat) :=
  w.jobs.flatMap fun j ↦ j.task.timers.map fun timer ↦ (timer, j.id)

/-- Moves the clock to the next timer and wakes the tasks it goes off for. -/
def tick (w : World) : Option World :=
  match ((timers w).map (·.1.time)).min? with
  | none => none
  | some time =>
    let due := (timers w).filter (·.1.time ≤ time) |>.mergeSort fun a b ↦ a.1.before b.1
    some (due.foldl (fun w entry ↦ w.wake entry.2) { w with clock := max w.clock time })

/-- Runs the world until the task in the foreground ends.  Nothing comes out if it waits for what
never happens, or if the fuel is used up. -/
def runForeground (foreground : Nat) : Nat → World → Option Outcome × World
  | 0, w => (none, w)
  | fuel + 1, w =>
    let others (w : World) : Option Outcome × World :=
      let w := drain (some foreground) fuel w
      if w.ready.contains foreground then runForeground foreground fuel w
      else
        match tick w with
        | some w => runForeground foreground fuel w
        | none => (none, w)
    if w.ready.contains foreground then
      let w := { w with ready := w.ready.filter (· ≠ foreground) }
      match w.job? foreground with
      | none => (none, w)
      | some j =>
        match runJob w j with
        | (some outcome, w) => (some outcome, w)
        | (none, w) => others w
    else others w

end Turnstile.Simulation
