import Turnstile.Duration
import Turnstile.Metrics.Histogram
import Turnstile.Ordered

/-!
# The metrics registry

Requests, failures and latencies are counted per endpoint, failures also by kind.  Lock conflicts
are counted apart: those shown to callers, those masked while accounts are created, and the retries
of schema creation.
-/

namespace Turnstile.Metrics

/-- What is counted for one endpoint. -/
structure EndpointMetrics where
  requests : Nat
  errors : Nat
  latency : Histogram

def EndpointMetrics.empty : EndpointMetrics := ⟨0, 0, .empty⟩

/-- The endpoint with one request more. -/
def EndpointMetrics.record (m : EndpointMetrics) (elapsed : Duration) (failed : Bool) :
    EndpointMetrics where
  requests := m.requests + 1
  errors := if failed then m.errors + 1 else m.errors
  latency := m.latency.observe elapsed.toMillisFloat

/-- Conflicts and retries that are counted on their own. -/
inductive Counter where
  | contention
  | maskedContention
  | schemaRetries
deriving DecidableEq, Repr

/-- All counts of a process.  They stand for 64-bit words, so fewer than 2 ^ 64 calls are meant. -/
structure Registry where
  endpoints : List (String × EndpointMetrics)
  errorsByKind : List (String × Nat)
  contention : Nat
  maskedContention : Nat
  schemaRetries : Nat

namespace Registry

def empty : Registry := ⟨[], [], 0, 0, 0⟩

/-- The value of a counter. -/
def counter (r : Registry) : Counter → Nat
  | .contention => r.contention
  | .maskedContention => r.maskedContention
  | .schemaRetries => r.schemaRetries

/-- Adds one to a counter. -/
def increment (r : Registry) : Counter → Registry
  | .contention => { r with contention := r.contention + 1 }
  | .maskedContention => { r with maskedContention := r.maskedContention + 1 }
  | .schemaRetries => { r with schemaRetries := r.schemaRetries + 1 }

/-- Makes sure that an endpoint is listed. -/
def touch (r : Registry) (endpoint : String) : Registry :=
  { r with endpoints := Ordered.alter endpoint .empty id r.endpoints }

/-- What is counted for an endpoint. -/
def endpoint (r : Registry) (name : String) : EndpointMetrics :=
  (r.endpoints.lookup name).getD .empty

/-- How many failures have a kind. -/
def errorsOfKind (r : Registry) (kind : String) : Nat :=
  (r.errorsByKind.lookup kind).getD 0

/-- Counts a failure by its kind, and once more if it is a conflict. -/
def countError (r : Registry) (e : Error) : Registry :=
  { r with
    errorsByKind := Ordered.alter e.kind 0 (· + 1) r.errorsByKind
    contention := if e.isContention then r.contention + 1 else r.contention }

/-- Counts one request: its endpoint, how long it took, and why it failed if it did. -/
def record (r : Registry) (endpoint : String) (elapsed : Duration) (error : Option Error) :
    Registry :=
  let endpoints := Ordered.alter endpoint .empty (·.record elapsed error.isSome) r.endpoints
  let r := { r with endpoints }
  match error with
  | some e => r.countError e
  | none => r

end Registry

end Turnstile.Metrics
