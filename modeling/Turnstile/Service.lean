import Turnstile.Database
import Turnstile.Engine
import Turnstile.Metrics.Registry

/-!
# The state of a node's service

Requests work on the store, the cluster and the metrics.  Their programs make the calls of all
three, may pause, and may ask how long the process has been up.
-/

namespace Turnstile

/-- What the requests of a node share. -/
structure Service where
  store : Store
  cluster : Cluster
  metrics : Metrics.Registry
  /-- Whole seconds since the process started. -/
  uptime : Nat

namespace Service

/-- A service on an empty store and an empty cluster. -/
def fresh (busyTimeout : Nat) : Service where
  store := .empty busyTimeout
  cluster := .empty
  metrics := .empty
  uptime := 0

/-- What programs ask of the service. -/
inductive Call where
  | store (c : Store.Call)
  | cluster (c : Cluster.Call)
  /-- Counts a request. -/
  | record (endpoint : String) (elapsed : Duration) (error : Option Error)
  | increment (counter : Metrics.Counter)
  | metrics
  | uptime
  /-- Waits, in milliseconds. -/
  | pause (length : Nat)

/-- The calls of the service and their answers. -/
def interface : Interface where
  Call := Call
  Answer
    | .store c => Store.interface.Answer c
    | .cluster c => Cluster.interface.Answer c
    | .record _ _ _ => Unit
    | .increment _ => Unit
    | .metrics => Metrics.Registry
    | .uptime => Nat
    | .pause _ => Unit

/-- The answer to a call and the service after it. -/
def answer : (c : interface.Call) → Service → interface.Answer c × Service
  | .store c, s =>
    let (result, store) := Store.answer c s.store
    (result, { s with store })
  | .cluster c, s =>
    let (result, cluster) := Cluster.answer c s.cluster
    (result, { s with cluster })
  | .record endpoint elapsed error, s =>
    ((), { s with metrics := s.metrics.record endpoint elapsed error })
  | .increment counter, s => ((), { s with metrics := s.metrics.increment counter })
  | .metrics, s => (s.metrics, s)
  | .uptime, s => (s.uptime, s)
  | .pause _, s => ((), s)

/-- Actions on the service. -/
abbrev ServiceAction (α : Type) : Type :=
  Action interface α

/-- An action on the store as one on the service. -/
def onStore {α : Type} (p : Database.DbAction α) : ServiceAction α :=
  p.interpret fun c ↦ Program.ask (I := interface) (.store c)

/-- An action on the cluster as one on the service. -/
def onCluster {α : Type} (p : Engine.ClusterAction α) : ServiceAction α :=
  p.interpret fun c ↦ Program.ask (I := interface) (.cluster c)

/-- Counts a request. -/
def record (endpoint : String) (elapsed : Duration) (error : Option Error) :
    Program interface Unit :=
  Program.ask (I := interface) (.record endpoint elapsed error)

/-- Adds one to a counter. -/
def increment (counter : Metrics.Counter) : Program interface Unit :=
  Program.ask (I := interface) (.increment counter)

end Service

end Turnstile
