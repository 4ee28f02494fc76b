import Turnstile.Proofs.Metrics.Histogram
import Turnstile.Proofs.Metrics.Registry

/-!
# A registry after any history

Requests are counted one after another, and each changes several entries of the registry.  What stands
there in the end can be read off the requests: an endpoint has what its own requests add up to, a kind
the requests that failed with it.  So the counts agree with one another.
-/

namespace Turnstile.Metrics

open Ordered (Increasing)

/-- A request as it is counted: its endpoint, how long it took, and why it failed if it did. -/
structure Recording where
  endpoint : String
  elapsed : Duration
  error : Option Error

namespace Recording

/-- How long the request took, in milliseconds. -/
def latency (c : Recording) : Float :=
  c.elapsed.toMillisFloat

def failed (c : Recording) : Bool :=
  c.error.isSome

/-- Whether the request failed with a kind. -/
def hasKind (kind : String) (c : Recording) : Bool :=
  c.error.any fun e ↦ e.kind = kind

/-- The requests to one endpoint. -/
def ofEndpoint (name : String) (calls : List Recording) : List Recording :=
  calls.filter fun c ↦ c.endpoint = name

end Recording

/-- What requests to one endpoint add up to. -/
def EndpointMetrics.ofRecordings (calls : List Recording) : EndpointMetrics where
  requests := calls.length
  errors := calls.countP Recording.failed
  latency := .observeAll (calls.map Recording.latency)

theorem EndpointMetrics.ofRecordings_concat (calls : List Recording) (c : Recording) :
    ofRecordings (calls ++ [c]) = (ofRecordings calls).record c.elapsed c.error.isSome := by
  have herrors : (calls ++ [c]).countP Recording.failed =
      if c.error.isSome then calls.countP Recording.failed + 1 else calls.countP Recording.failed := by
    rw [List.countP_append, List.countP_singleton, Recording.failed]
    split <;> rfl
  have hlatency : Histogram.observeAll ((calls ++ [c]).map Recording.latency) =
      (Histogram.observeAll (calls.map Recording.latency)).observe c.latency := by
    rw [List.map_append]
    exact Histogram.observeAll_concat ..
  rw [ofRecordings, herrors, hlatency, List.length_append]
  rfl

namespace Registry

/-- The registry after requests that are counted one after another. -/
def recordAll (calls : List Recording) : Registry :=
  calls.foldl (fun r c ↦ r.record c.endpoint c.elapsed c.error) empty

theorem recordAll_concat (calls : List Recording) (c : Recording) :
    recordAll (calls ++ [c]) = (recordAll calls).record c.endpoint c.elapsed c.error :=
  List.foldl_append ..

variable {r : Registry}

/-! ## One request -/

theorem increasing_errorsByKind_record (hkinds : Increasing r.errorsByKind) (c : Recording) :
    Increasing (r.record c.endpoint c.elapsed c.error).errorsByKind := by
  obtain ⟨name, elapsed, _ | e⟩ := c
  · exact hkinds
  · exact hkinds.alter

theorem errorsOfKind_record (hkinds : Increasing r.errorsByKind) (c : Recording) (kind : String) :
    (r.record c.endpoint c.elapsed c.error).errorsOfKind kind =
      r.errorsOfKind kind + (c.hasKind kind).toNat := by
  obtain ⟨name, elapsed, _ | e⟩ := c
  · rfl
  · rw [Recording.hasKind, Option.any_some]
    by_cases hkind : e.kind = kind
    · subst hkind
      rw [decide_eq_true rfl, Bool.toNat_true, errorsOfKind, errorsOfKind]
      exact congrArg (Option.getD · 0) (Ordered.lookup_alter_self hkinds)
    · rw [decide_eq_false hkind, Bool.toNat_false, errorsOfKind, errorsOfKind]
      exact congrArg (Option.getD · 0) (Ordered.lookup_alter_of_ne (Ne.symm hkind))

/-- No other failure is of the kind of a conflict. -/
theorem isContention_eq_decide_kind (e : Error) :
    e.isContention = decide (e.kind = Error.contention.kind) := by
  cases e <;> rfl

theorem contention_record (c : Recording) :
    (r.record c.endpoint c.elapsed c.error).contention =
      r.contention + (c.hasKind Error.contention.kind).toNat := by
  obtain ⟨name, elapsed, _ | e⟩ := c
  · rfl
  · rw [Recording.hasKind, Option.any_some, ← isContention_eq_decide_kind, record, countError]
    cases e.isContention <;> rfl

/-! ## All requests -/

theorem sound_recordAll (calls : List Recording) : (recordAll calls).Sound := by
  induction calls using List.reverseRecOn with
  | nil => exact sound_empty
  | append_singleton calls c ih =>
    rw [recordAll_concat]
    exact ih.record ..

theorem endpoint_recordAll (calls : List Recording) (name : String) :
    (recordAll calls).endpoint name = .ofRecordings (Recording.ofEndpoint name calls) := by
  induction calls using List.reverseRecOn with
  | nil => rfl
  | append_singleton calls c ih =>
    rw [recordAll_concat, (sound_recordAll calls).endpoint_record, Recording.ofEndpoint,
      List.filter_append, List.filter_singleton]
    split
    case isTrue heq =>
      rw [decide_eq_true heq.symm, Bool.cond_true, ← heq, ih]
      exact (EndpointMetrics.ofRecordings_concat _ c).symm
    case isFalse hne =>
      rw [ih, decide_eq_false (Ne.symm hne), Bool.cond_false, List.append_nil]
      rfl

theorem increasing_errorsByKind_recordAll (calls : List Recording) :
    Increasing (recordAll calls).errorsByKind := by
  induction calls using List.reverseRecOn with
  | nil => exact .nil
  | append_singleton calls c ih =>
    rw [recordAll_concat]
    exact increasing_errorsByKind_record ih c

theorem errorsOfKind_recordAll (calls : List Recording) (kind : String) :
    (recordAll calls).errorsOfKind kind = calls.countP (Recording.hasKind kind) := by
  induction calls using List.reverseRecOn with
  | nil => rfl
  | append_singleton calls c ih =>
    rw [recordAll_concat, errorsOfKind_record (increasing_errorsByKind_recordAll calls), ih,
      countP_concat]

theorem contention_recordAll (calls : List Recording) :
    (recordAll calls).contention = calls.countP (Recording.hasKind Error.contention.kind) := by
  induction calls using List.reverseRecOn with
  | nil => rfl
  | append_singleton calls c ih =>
    rw [recordAll_concat, contention_record, ih, countP_concat]

/-! ## Consistency -/

/-- The registry has counted the requests, and its counts agree with one another. -/
structure Consistent (r : Registry) (calls : List Recording) : Prop extends r.Sound where
  requests (name : String) :
    (r.endpoint name).requests = (Recording.ofEndpoint name calls).length
  latency (name : String) :
    (r.endpoint name).latency.Counts ((Recording.ofEndpoint name calls).map Recording.latency)
  errors (name : String) :
    (r.endpoint name).errors = (Recording.ofEndpoint name calls).countP Recording.failed
  errors_le (name : String) : (r.endpoint name).errors ≤ (r.endpoint name).requests
  kinds (kind : String) : r.errorsOfKind kind = calls.countP (Recording.hasKind kind)
  contention : r.contention = r.errorsOfKind Error.contention.kind

/-- After any requests the registry is consistent.  Its histograms count rightly whatever they are
given, also what is negative or infinite; and what is no number counts only under the last
boundary, where everything does. -/
theorem consistent_after_any_history (calls : List Recording) (latencies : List Float) :
    (recordAll calls).Consistent calls ∧ (Histogram.observeAll latencies).Counts latencies ∧
      ∀ le, Histogram.within le (latencies.filter fun x ↦ !x.isNaN) =
        Histogram.within le latencies := by
  refine ⟨?_, Histogram.counts_observeAll latencies, fun le ↦
    Histogram.within_filter_isNaN le latencies⟩
  refine { sound_recordAll calls with
    requests := fun name ↦ ?_
    latency := fun name ↦ ?_
    errors := fun name ↦ ?_
    errors_le := fun name ↦ ?_
    kinds := errorsOfKind_recordAll calls
    contention := ?_ }
  · rw [endpoint_recordAll]
    rfl
  · rw [endpoint_recordAll]
    exact Histogram.counts_observeAll _
  · rw [endpoint_recordAll]
    rfl
  · rw [endpoint_recordAll]
    exact List.countP_le_length
  · rw [contention_recordAll, errorsOfKind_recordAll]

end Registry

end Turnstile.Metrics
