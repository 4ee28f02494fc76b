import Turnstile.Proofs.Http.Initialization
import Turnstile.Proofs.Http.Marking
import Turnstile.Proofs.Metrics.Meter
import Turnstile.Proofs.Workload.Concession

/-!
# What a request adds to the counters

Every request to a counted endpoint is recorded once, after its work has ended or has been cut off,
with the failure that its reply reports.  A request without an endpoint is recorded apart.  The work
itself counts nothing but a masked conflict, by the last call that it makes, so work that is cut off
has counted nothing.
-/

namespace Turnstile.Http

open Metrics (Meter Registry)
open Service (Uncounting onStore uncounting_bind uncounting_pure)
open Workload

/-! ## What the work counts -/

/-- Of all work only an account creation counts something. -/
theorem uncounting_work (ctx : Context) (body : String) {e : Endpoint} (he : e ≠ .createAccounts) :
    Uncounting (work ctx body e) := by
  cases e with
  | createAccounts => exact absurd rfl he
  | runBatch | readBalances | readSet | addElement => exact Service.uncounting_onStore _
  | transfer =>
    unfold work transfer
    cases Bank.Transfer.parse body with
    | error e => exact Service.uncounting_throw e
    | ok r => exact uncounting_bind (Service.uncounting_onStore _) fun _ ↦ uncounting_pure _
  | readLeader | readMembers | removeMember | checkReadiness =>
    exact uncounting_bind (Service.uncounting_onCluster _) fun _ ↦ uncounting_pure _
  | readHealth | readMetrics => exact uncounting_pure _

/-- The work has met a conflict and has been answered `nil` all the same. -/
def Masks (e : Endpoint) (result : Except Error String) (d : List Exchange) : Prop :=
  e = .createAccounts ∧ result = .ok nilReply ∧ conflicted d = true

/-- Masked conflicts are counted, and nothing else is. -/
structure CountsMasked (e : Endpoint) (result : Except Error String) (d : List Exchange) : Prop where
  masked : Masks e result d → counted d = [.increment .maskedContention]
  unmasked : ¬ Masks e result d → counted d = []

theorem countsMasked_of_not {e : Endpoint} {result : Except Error String} {d : List Exchange}
    (hmasks : ¬ Masks e result d) (hd : counted d = []) : CountsMasked e result d :=
  ⟨fun h ↦ absurd h hmasks, fun _ ↦ hd⟩

theorem countsMasked_reportOpening (surface : Bool) {outcome : Bank.OpeningOutcome}
    {d : List Exchange} (hd : counted d = []) (htells : outcome = .contended ↔ conflicted d = true) :
    Action.Meets conversing (fun d ↦ counted d = []) (CountsMasked .createAccounts)
      (reportOpening surface outcome) d := by
  have hclear (hne : outcome ≠ .contended) (result : Except Error String) :
      CountsMasked .createAccounts result d :=
    countsMasked_of_not (fun hmasks ↦ hne (htells.2 hmasks.2.2)) hd
  cases outcome with
  | contended =>
    cases surface with
    | true => exact countsMasked_of_not (by simp [Masks]) hd
    | false =>
      refine ⟨hd, trivial, ?_⟩
      rintro _ _ rfl
      constructor
      · intro _
        simp [counted_concat, hd, Service.Call.counts]
      · intro hmasks
        refine absurd ⟨rfl, rfl, ?_⟩ hmasks
        rw [conflicted_concat, htells.1 rfl]
        rfl
  | created | alreadyInitialized | noShare => exact hclear (by simp) _

theorem countsMasked_createAccounts (surface : Bool) (body : String) :
    Action.Meets conversing (fun d ↦ counted d = []) (CountsMasked .createAccounts)
      (createAccounts surface body) [] := by
  unfold createAccounts
  cases Bank.Opening.parse body with
  | error e => exact countsMasked_of_not (by simp [Masks]) rfl
  | ok r =>
    apply Action.Meets.bind
    have hcounts : (onStore (Bank.openAccounts r)).Meets conversing (fun d ↦ counted d = [])
        (fun _ d ↦ counted d = []) [] :=
      Program.meets_of_uncounting (Service.uncounting_onStore _) rfl
    have htells : (onStore (Bank.openAccounts r)).Meets conversing (fun _ ↦ True)
        Bank.TellsConflict [] :=
      .onStore (Bank.tellsConflict_openAccounts r rfl)
    apply Action.Meets.imp (Program.Meets.and hcounts htells)
    rintro result d ⟨hd, htells⟩
    cases result with
    | error e => exact countsMasked_of_not (by simp [Masks]) hd
    | ok outcome => exact countsMasked_reportOpening surface hd (htells outcome rfl)

theorem countsMasked_work (ctx : Context) (body : String) (e : Endpoint) :
    Action.Meets conversing (fun d ↦ counted d = []) (CountsMasked e) (work ctx body e) [] := by
  by_cases he : e = .createAccounts
  · obtain rfl := he
    exact countsMasked_createAccounts ctx.surfaceInitContention body
  · apply Action.Meets.imp (Program.meets_of_uncounting (uncounting_work ctx body he) rfl)
    exact fun _ _ hd ↦ countsMasked_of_not (fun hmasks ↦ he hmasks.1) hd

/-! ## Observed requests -/

section Observed

variable (ctx : Context) {r : Request} {e : Endpoint}

/-- A request to a counted endpoint works under the deadline and is then recorded. -/
theorem observe_of_name (hfits : r.Fits) (hroute : Route.of r.method r.path = .endpoint e)
    {name : String} (hname : e.metricsName = some name) :
    observe ctx r = .limited ctx.requestTimeout (work ctx r.text e).run fun result elapsed ↦
      .call (.record name elapsed (failure? (result.getD (.error .deadlineExceeded)))) fun _ ↦
        .done (.handled (result.getD (.error .deadlineExceeded)),
          (Content.plain (Reply.render (result.getD (.error .deadlineExceeded)))).respond r) := by
  have hread : ¬ (e.readsBody ∧ r.bodyLimit < r.body.size) :=
    fun hlong ↦ absurd hlong.2 (Nat.not_lt.2 hfits.2)
  unfold observe
  rw [if_neg (Nat.not_lt.2 hfits.1), hroute]
  unfold observeEndpoint
  simp only [if_neg hread, hname]
  rfl

theorem observe_unknown (hfits : r.Fits) (hroute : Route.of r.method r.path = .unknown) :
    observe ctx r = .run (.call (.record "unknown" .zero none) fun _ ↦
      .done (.unlisted, Content.badRequest.respond r)) := by
  unfold observe
  rw [if_neg (Nat.not_lt.2 hfits.1), hroute]
  unfold serve serveContent
  simp only [if_neg (Nat.not_lt.2 hfits.1), hroute]
  rfl

theorem observe_readHealth (hfits : r.Fits)
    (hroute : Route.of r.method r.path = .endpoint .readHealth) :
    observe ctx r = .run (.call Service.Call.uptime fun (uptime : Nat) ↦
      .done (.handled (.ok (Content.health ctx.node uptime).body),
        (Content.health ctx.node uptime).respond r)) := by
  unfold observe
  rw [if_neg (Nat.not_lt.2 hfits.1), hroute]
  simp only [observeEndpoint, serveEndpoint, Endpoint.readsBody, Endpoint.metricsName,
    Bool.false_eq_true, false_and, if_false, Activity.map]
  rfl

theorem observe_readMetrics (hfits : r.Fits)
    (hroute : Route.of r.method r.path = .endpoint .readMetrics) :
    observe ctx r = .run (.call Service.Call.metrics fun (registry : Registry) ↦
      .call Service.Call.uptime fun (uptime : Nat) ↦
        .done (.handled (.ok (Content.plain (Metrics.Exposition.render registry uptime)).body),
          (Content.plain (Metrics.Exposition.render registry uptime)).respond r)) := by
  unfold observe
  rw [if_neg (Nat.not_lt.2 hfits.1), hroute]
  simp only [observeEndpoint, serveEndpoint, Endpoint.readsBody, Endpoint.metricsName,
    Bool.false_eq_true, false_and, if_false, Activity.map]
  rfl

end Observed

/-! ## Requests that have been answered -/

/-- The failure of a handler, if it has failed. -/
def Handling.failure? : Handling → Option Error
  | handled (.error e) => some e
  | _ => none

/-- A request with its turns, how it was dealt with, and the response to it. -/
structure Answered where
  request : Request
  turns : List (Service × Service)
  handling : Handling
  response : Response

namespace Answered

def route (a : Answered) : Route :=
  Route.of a.request.method a.request.path

/-- The request has an endpoint that is counted under a name. -/
def routedTo (name : String) (a : Answered) : Bool :=
  match a.route with
  | .endpoint e => decide (e.metricsName = some name)
  | _ => false

/-- The reply starts with the mark of a failure. -/
def marked (a : Answered) : Bool :=
  decide (Reply.errorMark <+: a.response.body.toList)

/-- A call of the request's work was refused for a conflict.  The calls are those that the work makes
when it finds the services that the request has found. -/
def metConflict (ctx : Context) (a : Answered) : Bool :=
  match a.route with
  | .endpoint e =>
    conflicted ((work ctx a.request.text e).run.dialogue (a.turns.map Prod.fst))
  | _ => false

/-- An account creation that has met a conflict and is answered `nil`. -/
def masked (ctx : Context) (a : Answered) : Bool :=
  decide (a.request.method = "PUT" ∧ a.request.path = "/bank" ∧ a.response.body = nilReply) &&
    a.metConflict ctx

end Answered

theorem put_bank_of_createAccounts {method path : String}
    (hroute : Route.of method path = .endpoint .createAccounts) :
    method = "PUT" ∧ path = "/bank" := by
  unfold Route.of at hroute
  split at hroute
  case h_1 =>
    unfold Endpoint.ofGet at hroute
    split at hroute
    all_goals simp at hroute
  case h_2 => cases hget : Endpoint.ofGet path <;> simp [hget] at hroute
  case h_3 =>
    unfold Endpoint.ofChange at hroute
    split at hroute
    case h_2 => exact ⟨rfl, rfl⟩
    all_goals simp at hroute

theorem render_eq_nilReply {result : Except Error String} :
    Reply.render result = nilReply ↔ result = .ok nilReply := by
  cases result with
  | ok text => simp [Reply.render]
  | error e => simp [Reply.render, ofError_ne_nilReply]

/-- A reply is masked if the work has masked a conflict. -/
theorem Answered.masked_iff (ctx : Context) {a : Answered} {e : Endpoint}
    {result : Except Error String} (hroute : a.route = .endpoint e)
    (hbody : a.response.body = Reply.render result) :
    a.masked ctx = true ↔
      Masks e result ((work ctx a.request.text e).run.dialogue (a.turns.map Prod.fst)) := by
  have hbank : a.request.method = "PUT" ∧ a.request.path = "/bank" ↔ e = .createAccounts := by
    constructor
    · rintro ⟨hmethod, hpath⟩
      rw [route, hmethod, hpath] at hroute
      exact (Route.endpoint.inj hroute).symm
    · rintro rfl
      exact put_bank_of_createAccounts hroute
  unfold masked metConflict Masks
  simp only [hroute, hbody, Bool.and_eq_true, decide_eq_true_eq, render_eq_nilReply, ← hbank,
    and_assoc]

/-! ## What an answered request adds -/

namespace Answered

/-- The name under which the request is recorded, if it is. -/
def recordedAs (a : Answered) : Option String :=
  match a.route with
  | .endpoint e => e.metricsName
  | .headersOnly _ => none
  | .unknown => some "unknown"

/-- What a request adds to what a meter reads. -/
def adds (ctx : Context) (m : Meter) (a : Answered) : Nat :=
  (if a.masked ctx then m.gain (.increment .maskedContention) else 0) +
    (a.recordedAs.elim 0 fun name ↦ m.gain (.record name .zero a.handling.failure?))

end Answered

theorem Answered.route_of_masked {ctx : Context} {a : Answered} (hmasked : a.masked ctx = true) :
    a.route = .endpoint .createAccounts := by
  simp only [masked, Bool.and_eq_true, decide_eq_true_eq] at hmasked
  obtain ⟨⟨hmethod, hpath, _⟩, _⟩ := hmasked
  rw [route, hmethod, hpath]
  rfl

/-- The turns of an answered request have added what its reply tells. -/
structure Accounted (ctx : Context) (a : Answered) : Prop where
  adds : ∃ calls, Makes a.turns calls ∧ ∀ m : Meter, m.total calls = a.adds ctx m
  /-- A recorded reply tells by its start whether the handler has failed. -/
  marked : ∀ e name, a.route = .endpoint e → e.metricsName = some name →
    a.marked = a.handling.failure?.isSome
  unlisted : a.route = .unknown → a.response.body = Reply.badRequest
  /-- Only a recorded handler fails. -/
  failure : a.handling.failure? ≠ none → ∃ e name, a.route = .endpoint e ∧ e.metricsName = some name

section Accounted

variable (ctx : Context) {a : Answered} {e : Endpoint}

theorem marked_eq {result : Except Error String} (hhandling : a.handling = .handled result)
    (hbody : a.response.body = Reply.render result) (hresult : Unmarked result) :
    a.marked = a.handling.failure?.isSome := by
  have hmark := (marked_handled hresult).mark
  rw [← hbody] at hmark
  rw [Answered.marked, Bool.eq_iff_iff, decide_eq_true_iff, hmark, hhandling]
  cases result <;> simp [Handling.Fails, Handling.failure?]

/-- A request whose work has ended or been cut off has been recorded with what it has come to. -/
theorem accounted_of_result (hroute : a.route = .endpoint e) {name : String}
    (hname : e.metricsName = some name) {result : Except Error String}
    (hhandling : a.handling = .handled result) (hbody : a.response.body = Reply.render result)
    (hresult : Unmarked result) {worked : List Service.interface.Call} {elapsed : Duration}
    (hmakes : Makes a.turns (worked ++ [.record name elapsed (failure? result)]))
    (hmasks : Masks e result ((work ctx a.request.text e).run.dialogue (a.turns.map Prod.fst)) →
      worked.filter Service.Call.counts = [.increment .maskedContention])
    (hunmasked : ¬ Masks e result ((work ctx a.request.text e).run.dialogue (a.turns.map Prod.fst)) →
      worked.filter Service.Call.counts = []) : Accounted ctx a where
  adds := by
    refine ⟨_, hmakes, fun m ↦ (m.total_concat _ _).trans ?_⟩
    have hrecorded : a.recordedAs = some name := by simp [Answered.recordedAs, hroute, hname]
    have hfailure : a.handling.failure? = failure? result := by
      rw [hhandling]
      cases result <;> rfl
    rw [Answered.adds, hrecorded, hfailure, ← m.total_filter, m.gain_record]
    congr 1
    split
    case isTrue h =>
      have hcounts := hmasks ((a.masked_iff ctx hroute hbody).1 h)
      exact (congrArg m.total hcounts).trans (m.total_singleton _)
    case isFalse h =>
      exact congrArg m.total (hunmasked fun hm ↦ h ((a.masked_iff ctx hroute hbody).2 hm))
  marked _ _ _ _ := marked_eq hhandling hbody hresult
  unlisted hunknown := by simp [hroute] at hunknown
  failure _ := ⟨e, name, hroute, hname⟩

theorem accounted_of_name (hfits : a.request.Fits) (hroute : a.route = .endpoint e) {name : String}
    (hname : e.metricsName = some name)
    (hends : (observe ctx a.request).Ends a.turns (a.handling, a.response)) : Accounted ctx a := by
  rw [observe_of_name ctx hfits hroute hname] at hends
  obtain ⟨worked, result, elapsed, later, hturns, hwork, hfinish⟩ |
    ⟨worked, c, next, s, elapsed, later, hturns, hwork, hfinish⟩ := hends
  · obtain ⟨s, rfl, hresult⟩ := Program.goes_last hfinish
    obtain ⟨hhandling, hresponse⟩ := Prod.mk.inj hresult
    have hunmarked : Unmarked result := by
      apply hwork.relies (Q := Unmarked) ?_ (gives_work ctx a.request.text e)
      intro c s
      cases c with
      | store c => exact Store.evaluatingFollows_answer c s.store
      | _ => trivial
    have hdialogue : (work ctx a.request.text e).run.dialogue (a.turns.map Prod.fst) =
        (work ctx a.request.text e).run.dialogue (worked.map Prod.fst) := by
      rw [hturns, List.map_append, hwork.dialogue_append, Program.dialogue_done, List.append_nil]
    have hcounts : CountsMasked e result
        ((work ctx a.request.text e).run.dialogue (worked.map Prod.fst)) :=
      hwork.meets (countsMasked_work ctx a.request.text e)
    apply accounted_of_result ctx hroute hname hhandling (congrArg Response.body hresponse) hunmarked
      (hturns ▸ hwork.makes.append (.call s _ .nil))
    · exact fun hmasks ↦ hcounts.masked (hdialogue ▸ hmasks)
    · exact fun hmasks ↦ hcounts.unmasked (hdialogue ▸ hmasks)
  · obtain ⟨s', rfl, hresult⟩ := Program.goes_last hfinish
    obtain ⟨hhandling, hresponse⟩ := Prod.mk.inj hresult
    -- Work that is cut off has a call left to make, and before each call nothing has been counted.
    have hnothing : counted ((work ctx a.request.text e).run.dialogue (worked.map Prod.fst)) = [] :=
      (hwork.meets (countsMasked_work ctx a.request.text e)).1
    apply accounted_of_result ctx hroute hname hhandling (congrArg Response.body hresponse)
      (unmarked_error _) (hturns ▸ hwork.makes.append (.release s _ (.call s' _ .nil)))
    · exact fun hmasks ↦ by simp [Masks] at hmasks
    · exact fun _ ↦ hnothing

theorem accounted_of_unknown (hfits : a.request.Fits) (hroute : a.route = .unknown)
    (hends : (observe ctx a.request).Ends a.turns (a.handling, a.response)) : Accounted ctx a := by
  rw [observe_unknown ctx hfits hroute] at hends
  obtain ⟨s, hturns, hresult⟩ := Program.goes_last hends
  obtain ⟨hhandling, hresponse⟩ := Prod.mk.inj hresult
  constructor
  case adds =>
    have hmakes : Makes a.turns [.record "unknown" .zero none] := hturns ▸ .call s _ .nil
    refine ⟨_, hmakes, fun m ↦ (m.total_singleton _).trans ?_⟩
    simp [Answered.adds, Answered.masked, Answered.metConflict, Answered.recordedAs, hroute, hhandling,
      Handling.failure?]
  case marked => simp [hroute]
  case unlisted => exact fun _ ↦ congrArg Response.body hresponse
  case failure => simp [hhandling, Handling.failure?]

/-- A request that is not recorded has made no call that counts something. -/
theorem accounted_of_unrecorded (hroute : a.route = .endpoint e) (hname : e.metricsName = none)
    {text : String} (hhandling : a.handling = .handled (.ok text))
    {calls : List Service.interface.Call} (hmakes : Makes a.turns calls)
    (hcalls : calls.filter Service.Call.counts = []) : Accounted ctx a where
  adds := by
    refine ⟨calls, hmakes, fun m ↦ ?_⟩
    have hmasked : a.masked ctx = false := by
      rw [← Bool.not_eq_true]
      intro hmasked
      obtain rfl := Route.endpoint.inj (hroute.symm.trans (Answered.route_of_masked hmasked))
      simp [Endpoint.metricsName] at hname
    have hrecorded : a.recordedAs = none := by simp [Answered.recordedAs, hroute, hname]
    rw [← m.total_filter, hcalls, Answered.adds, hmasked, hrecorded]
    rfl
  marked e' name hroute' hname' := by
    obtain rfl := Route.endpoint.inj (hroute.symm.trans hroute')
    simp [hname] at hname'
  unlisted hunknown := by simp [hroute] at hunknown
  failure hfailure := by simp [hhandling, Handling.failure?] at hfailure

theorem accounted_of_not_name (hfits : a.request.Fits) (hroute : a.route = .endpoint e)
    (hname : e.metricsName = none)
    (hends : (observe ctx a.request).Ends a.turns (a.handling, a.response)) : Accounted ctx a := by
  cases e with
  | readHealth =>
    rw [observe_readHealth ctx hfits hroute] at hends
    obtain ⟨s, hturns, hresult⟩ := Program.goes_last hends
    obtain ⟨hhandling, _⟩ := Prod.mk.inj hresult
    have hmakes : Makes a.turns [.uptime] := hturns ▸ .call s _ .nil
    exact accounted_of_unrecorded ctx hroute hname hhandling hmakes rfl
  | readMetrics =>
    rw [observe_readMetrics ctx hfits hroute] at hends
    obtain ⟨s, later, hturns, hlater⟩ := Program.goes_call hends
    obtain ⟨s', rfl, hresult⟩ := Program.goes_last hlater
    obtain ⟨hhandling, _⟩ := Prod.mk.inj hresult
    have hmakes : Makes a.turns [.metrics, .uptime] := hturns ▸ .call s _ (.call s' _ .nil)
    exact accounted_of_unrecorded ctx hroute hname hhandling hmakes rfl
  | _ => simp [Endpoint.metricsName] at hname

/-- Every answered request is accounted for. -/
theorem accounted (hfits : a.request.Fits) (hmethod : a.request.method ≠ "HEAD")
    (hends : (observe ctx a.request).Ends a.turns (a.handling, a.response)) : Accounted ctx a := by
  cases hroute : a.route with
  | endpoint e =>
    cases hname : e.metricsName with
    | some name => exact accounted_of_name ctx hfits hroute hname hends
    | none => exact accounted_of_not_name ctx hfits hroute hname hends
  | headersOnly e => exact absurd (method_of_headersOnly hroute) hmethod
  | unknown => exact accounted_of_unknown ctx hfits hroute hends

end Accounted

/-! ## What single meters read -/

/-- The names under which requests to endpoints are counted. -/
def endpointNames : List String :=
  ["append", "bank", "set", "leader", "members", "ready"]

namespace Answered

variable {ctx : Context} {a : Answered} {name : String}

theorem recordedAs_eq_some (hname : name ∈ endpointNames) :
    a.recordedAs = some name ↔ a.routedTo name = true := by
  have hunknown : "unknown" ≠ name := by
    rintro rfl
    exact absurd hname (by decide)
  unfold recordedAs routedTo
  cases a.route <;> simp [hunknown]

theorem decide_recordedAs (hname : name ∈ endpointNames) :
    decide (a.recordedAs = some name) = a.routedTo name := by
  rw [Bool.eq_iff_iff, decide_eq_true_iff, recordedAs_eq_some hname]

theorem recordedAs_eq_unknown : a.recordedAs = some "unknown" ↔ a.route = .unknown := by
  unfold recordedAs
  cases a.route with
  | endpoint e => cases e <;> simp [Endpoint.metricsName]
  | headersOnly | unknown => simp

theorem adds_requests : a.adds ctx (.requests name) = (decide (a.recordedAs = some name)).toNat := by
  cases h : a.recordedAs <;> simp [adds, h, Meter.gain]

theorem adds_latencies : a.adds ctx (.latencies name) = a.adds ctx (.requests name) := rfl

theorem adds_errors : a.adds ctx (.errors name) =
    (decide (a.recordedAs = some name) && a.handling.failure?.isSome).toNat := by
  cases h : a.recordedAs <;> simp [adds, h, Meter.gain]

theorem adds_contention : a.adds ctx .contention =
    (decide (a.recordedAs.isSome ∧ a.handling.failure? = some .contention)).toNat := by
  cases h : a.recordedAs <;> simp [adds, h, Meter.gain]

theorem adds_maskedContention : a.adds ctx .maskedContention = (a.masked ctx).toNat := by
  cases hmasked : a.masked ctx <;> cases h : a.recordedAs <;> simp [adds, h, hmasked, Meter.gain]

theorem adds_failuresByKind : a.adds ctx .failuresByKind =
    (a.recordedAs.isSome && a.handling.failure?.isSome).toNat := by
  cases h : a.recordedAs <;> simp [adds, h, Meter.gain]

end Answered

namespace Accounted

variable {ctx : Context} {a : Answered} {name : String} (ha : Accounted ctx a)

include ha

/-- Among the requests to an endpoint those with a failure are those with a marked reply. -/
theorem errors_eq (hname : name ∈ endpointNames) : a.adds ctx (.errors name) =
    (a.routedTo name && a.marked).toNat := by
  rw [Answered.adds_errors, Answered.decide_recordedAs hname]
  cases hrouted : a.routedTo name with
  | false => rfl
  | true =>
    unfold Answered.routedTo at hrouted
    split at hrouted
    case h_1 e hroute => rw [ha.marked e name hroute (of_decide_eq_true hrouted)]
    case h_2 => simp at hrouted

/-- Without an endpoint there is no failure. -/
theorem errors_unknown : a.adds ctx (.errors "unknown") = 0 := by
  rw [Answered.adds_errors]
  by_cases hroute : a.route = .unknown
  · have hnone : a.handling.failure? = none := by
      by_contra hfailure
      obtain ⟨e, _, hendpoint, _⟩ := ha.failure hfailure
      simp [hroute] at hendpoint
    simp [hnone]
  · simp [Answered.recordedAs_eq_unknown, hroute]

theorem contention_eq : a.adds ctx .contention =
    (decide (a.handling.failure? = some .contention)).toNat := by
  rw [Answered.adds_contention]
  by_cases hcontention : a.handling.failure? = some .contention
  · obtain ⟨e, name, hroute, hname⟩ := ha.failure (by simp [hcontention])
    simp [hcontention, Answered.recordedAs, hroute, hname]
  · simp [hcontention]

/-- A conflict that is masked is no failure. -/
theorem failure_of_masked (hmasked : a.masked ctx = true) : a.handling.failure? = none := by
  have hmarked := ha.marked _ _ (Answered.route_of_masked hmasked) rfl
  simp only [Answered.masked, Bool.and_eq_true, decide_eq_true_eq] at hmasked
  obtain ⟨⟨_, _, hbody⟩, _⟩ := hmasked
  have hnil : a.marked = false := by
    rw [Answered.marked, hbody]
    decide
  rwa [hnil, eq_comm, Option.isSome_eq_false_iff, Option.isNone_iff_eq_none] at hmarked

/-- The turns of a request with a masked conflict leave a meter as it was if it reads failures. -/
theorem read_turn_of_masked (hmasked : a.masked ctx = true)
    (hsound : ∀ turn ∈ a.turns, turn.1.metrics.Sound) {m : Meter}
    (hm : a.handling.failure? = none → a.adds ctx m = 0) :
    ∀ turn ∈ a.turns, m.read turn.2.metrics = m.read turn.1.metrics := by
  obtain ⟨calls, hmakes, hadds⟩ := ha.adds
  apply Meter.read_turn_of_makes hmakes hsound
  rw [hadds, hm (ha.failure_of_masked hmasked)]

end Accounted

end Turnstile.Http
