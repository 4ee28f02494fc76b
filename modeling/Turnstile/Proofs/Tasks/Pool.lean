import Turnstile.Activity
import Turnstile.Service

/-!
# Tasks that share a service

Every request is served by a task of its own, and the tasks share one service.  They take turns in
any order: at each turn one of them makes its next call, uninterrupted, or comes to the end of a
pause.  The deadline of limited work can pass wherever the work has a call left to make, and the work
is then dropped; a whole task can be dropped there too.  Whatever is dropped gives up the ticket with
which it was about to make its call.

For every task there is a record of the service before and after each of its turns.  A task that has
come to its end is kept with its result, in the order in which the tasks have ended.
-/

namespace Turnstile

open Store (Ticket)

/-- The ticket that a program holds when it is about to make a call. -/
def Service.Call.ticket? : Service.Call → Option Ticket
  | .store c => c.ticket?
  | _ => none

/-- The service after the holder of a ticket has been dropped. -/
def Service.release (s : Service) : Option Ticket → Service
  | some t => { s with store := s.store.endTransaction t }
  | none => s

/-- The ticket that a program holds at the call at which it stands. -/
def Program.ticket? {α : Type} : Program Service.interface α → Option Ticket
  | .done _ => none
  | .call c _ => Service.Call.ticket? c

namespace Activity

variable {R : Type}

/-- The ticket that an activity holds at the call at which it stands. -/
def ticket? : Activity Service.interface R → Option Ticket
  | run p => p.ticket?
  | limited _ work _ => work.ticket?
  | after _ _ => none

/-- The result of an activity that has no call left to make, or the activity as it stands; limited
work that has ended is followed by what comes after it. -/
def proceed (elapsed : Duration) : Activity Service.interface R → R ⊕ Activity Service.interface R
  | run (.done r) => .inl r
  | limited _ (.done a) finish =>
    match finish (some a) elapsed with
    | .done r => .inl r
    | p => .inr (run p)
  | a => .inr a

/-- One turn of an activity. -/
inductive Advances (s : Service) (elapsed : Duration) :
    Activity Service.interface R → Activity Service.interface R → Service → Prop where
  | call (c : Service.interface.Call)
      (next : Service.interface.Answer c → Program Service.interface R) :
      Advances s elapsed (run (.call c next)) (run (next (Service.answer c s).1))
        (Service.answer c s).2
  | work {α : Type} (limit : Nat) (c : Service.interface.Call)
      (next : Service.interface.Answer c → Program Service.interface α)
      (finish : Option α → Duration → Program Service.interface R) :
      Advances s elapsed (limited limit (.call c next) finish)
        (limited limit (next (Service.answer c s).1) finish) (Service.answer c s).2
  | expire {α : Type} (limit : Nat) (c : Service.interface.Call)
      (next : Service.interface.Answer c → Program Service.interface α)
      (finish : Option α → Duration → Program Service.interface R) :
      Advances s elapsed (limited limit (.call c next) finish) (run (finish none elapsed))
        (s.release (Service.Call.ticket? c))
  | wake (pause : Nat) (next : Activity Service.interface R) :
      Advances s elapsed (after pause next) next s

end Activity

/-- Requests and the activities that serve them. -/
structure Workload where
  Request : Type
  Result : Request → Type
  serve : (r : Request) → Activity Service.interface (Result r)

/-- A task that has not come to its end. -/
structure Task (W : Workload) where
  request : W.Request
  /-- How many tasks had ended when it began. -/
  since : Nat
  /-- The service before and after each of its turns. -/
  turns : List (Service × Service)
  rest : Activity Service.interface (W.Result request)

/-- A task that has come to its end. -/
structure Outcome (W : Workload) where
  request : W.Request
  /-- How many tasks had ended when it began. -/
  since : Nat
  /-- The service before and after each of its turns. -/
  turns : List (Service × Service)
  /-- The result, nothing if the task was dropped. -/
  result : Option (W.Result request)

/-- A service with the tasks that share it. -/
structure Pool (W : Workload) where
  service : Service
  running : List (Task W)
  ended : List (Outcome W)

variable {W : Workload}

namespace Pool

/-- A service without tasks. -/
def idle (s : Service) : Pool W := ⟨s, [], []⟩

/-- The pool after a task has had its turn. -/
def put (p : Pool W) (service : Service) (before after : List (Task W)) (elapsed : Duration)
    (task : Task W) : Pool W :=
  match task.rest.proceed elapsed with
  | .inl result =>
    { service
      running := before ++ after
      ended := p.ended ++ [⟨task.request, task.since, task.turns, some result⟩] }
  | .inr rest => { p with service, running := before ++ { task with rest } :: after }

/-- One turn of one task. -/
inductive Step : Pool W → Pool W → Prop where
  | start (p : Pool W) (r : W.Request) (elapsed : Duration) :
      Step p (p.put p.service p.running [] elapsed ⟨r, p.ended.length, [], W.serve r⟩)
  | advance {p : Pool W} {before after : List (Task W)} {task : Task W} {elapsed : Duration}
      {rest : Activity Service.interface (W.Result task.request)} {service : Service}
      (hrunning : p.running = before ++ task :: after)
      (hadvances : task.rest.Advances p.service elapsed rest service) :
      Step p (p.put service before after elapsed
        ⟨task.request, task.since, task.turns ++ [(p.service, service)], rest⟩)
  | drop {p : Pool W} {before after : List (Task W)} {task : Task W}
      (hrunning : p.running = before ++ task :: after) :
      Step p
        { service := p.service.release task.rest.ticket?
          running := before ++ after
          ended := p.ended ++
            [⟨task.request, task.since,
              task.turns ++ [(p.service, p.service.release task.rest.ticket?)], none⟩] }

/-- The pools that tasks can lead to from a service without tasks. -/
inductive Reachable (s : Service) : Pool W → Prop where
  | start : Reachable s (idle s)
  | step {p p' : Pool W} : Reachable s p → Step p p' → Reachable s p'

end Pool

end Turnstile
