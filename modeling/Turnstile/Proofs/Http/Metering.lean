import Turnstile.Proofs.Http.Accounting

/-!
# Counters and replies

Each answered request adds to the counters what its reply tells, and the other tasks add nothing.  When
all requests have been answered, the counters can therefore be told from the replies, whatever the order
of the turns and whatever others have done to the store and the cluster.
-/

namespace Turnstile.Http

open Metrics (Meter)
open Store (History)

/-! ## All requests -/

/-- Numbers that are one or nothing add up to a count. -/
theorem sum_eq_countP {α : Type} {l : List α} {f : α → Nat} {P : α → Bool}
    (hf : ∀ a ∈ l, f a = (P a).toNat) : (l.map f).sum = l.countP P := by
  induction l with
  | nil => rfl
  | cons a rest ih =>
    rw [List.map_cons, List.sum_cons, hf a List.mem_cons_self, List.countP_cons,
      ih fun b hb ↦ hf b (List.mem_cons_of_mem a hb), Nat.add_comm]
    cases P a <;> rfl

section Observing

variable {ctx : Context} {ι : Type} {others : ι → Activity Service.interface Unit}

/-- A request that has ended with a response. -/
def answered? : Outcome (observing ctx others) → Option Answered
  | ⟨.inl r, _, turns, some x⟩ =>
    let x : Handling × Response := x
    some ⟨r, turns, x.1, x.2⟩
  | _ => none

/-- The requests that have been answered. -/
def answered (p : Pool (observing ctx others)) : List Answered :=
  p.ended.filterMap answered?

/-- Every request has been answered: none still runs, and none has been dropped. -/
structure Completed (p : Pool (observing ctx others)) : Prop where
  running : ∀ task ∈ p.running, ∀ r, task.request ≠ .inl r
  ended : ∀ o ∈ p.ended, ∀ r, o.request = .inl r → o.result ≠ none

/-- The counters say what the replies say. -/
structure Metered (p : Pool (observing ctx others)) : Prop where
  /-- Requests are served as they are when they are not observed. -/
  served : ∀ r, (observe ctx r).map Prod.snd = serve ctx r
  requests : ∀ name ∈ endpointNames,
    (p.service.metrics.endpoint name).requests = (answered p).countP (·.routedTo name)
  latencies : ∀ name ∈ endpointNames,
    (p.service.metrics.endpoint name).latency.count = (answered p).countP (·.routedTo name)
  errors : ∀ name ∈ endpointNames,
    (p.service.metrics.endpoint name).errors =
      (answered p).countP fun a ↦ a.routedTo name && a.marked
  /-- Requests without an endpoint are counted apart, never as failures. -/
  unknown : (p.service.metrics.endpoint "unknown").requests =
      (answered p).countP (fun a ↦ decide (a.route = .unknown)) ∧
    (p.service.metrics.endpoint "unknown").errors = 0 ∧
    ∀ a ∈ answered p, a.route = .unknown → a.response.body = Reply.badRequest
  kinds : p.service.metrics.failuresByKind = p.service.metrics.failures
  contention : p.service.metrics.contention =
    (answered p).countP fun a ↦ decide (a.handling.failure? = some .contention)
  masked : p.service.metrics.maskedContention = (answered p).countP (·.masked ctx)
  /-- No turn of a request with a masked conflict counts a conflict or a failure. -/
  unexposed : ∀ a ∈ answered p, a.masked ctx = true → ∀ turn ∈ a.turns,
    turn.2.metrics.contention = turn.1.metrics.contention ∧
      turn.2.metrics.failuresByKind = turn.1.metrics.failuresByKind ∧
      ∀ name, (turn.2.metrics.endpoint name).errors = (turn.1.metrics.endpoint name).errors

variable {service : Service} {p : Pool (observing ctx others)}

theorem turns_of_answered? {o : Outcome (observing ctx others)} {a : Answered}
    (ha : answered? o = some a) : a.turns = o.turns := by
  unfold answered? at ha
  split at ha
  case h_1 => exact congrArg Answered.turns (Option.some.inj ha).symm
  case h_2 => simp at ha

theorem accounted_of_mem (hreach : p.Reachable service) {a : Answered} (ha : a ∈ answered p)
    (hfits : a.request.Fits) (hmethod : a.request.method ≠ "HEAD") : Accounted ctx a := by
  obtain ⟨⟨request, since, turns, result⟩, ho, hsome⟩ := List.mem_filterMap.1 ha
  cases request with
  | inr i => simp [answered?] at hsome
  | inl r =>
    cases result with
    | none => simp [answered?] at hsome
    | some x =>
      obtain rfl := Option.some.inj hsome
      exact accounted ctx hfits hmethod (hreach.ends ho rfl)

theorem mem_turns_of_mem {a : Answered} (ha : a ∈ answered p) : a.turns ∈ p.turns := by
  obtain ⟨o, ho, hsome⟩ := List.mem_filterMap.1 ha
  rw [turns_of_answered? hsome]
  exact List.mem_append_right _ (List.mem_map_of_mem ho)

/-- What the tasks that have ended have added is what the answered requests have added, if the others
have added nothing. -/
theorem sum_spent_ended (m : Meter) {outcomes : List (Outcome (observing ctx others))}
    (hothers : ∀ o ∈ outcomes, answered? o = none → m.spent o.turns = 0) :
    ((outcomes.map Outcome.turns).map m.spent).sum =
      ((outcomes.filterMap answered?).map fun a ↦ m.spent a.turns).sum := by
  induction outcomes with
  | nil => rfl
  | cons o rest ih =>
    have hrest := ih fun o' ho' ↦ hothers o' (List.mem_cons_of_mem o ho')
    cases ho : answered? o with
    | none =>
      have hnothing := hothers o List.mem_cons_self ho
      simpa [ho, hnothing] using hrest
    | some a => simpa [ho, turns_of_answered? ho] using hrest

/-- When all requests have been answered, a meter reads what they have added. -/
theorem read_eq_sum (hothers : ∀ i, (others i).Uncounting) (hfresh : service.metrics = .empty)
    (hreach : p.Reachable service) (hcompleted : Completed p) (m : Meter) :
    m.read p.service.metrics = ((answered p).map fun a ↦ m.spent a.turns).sum := by
  have hquiet : ∀ request : (observing ctx others).Request, (∃ i, request = .inr i) →
      ((observing ctx others).serve request).Uncounting := by
    rintro _ ⟨i, rfl⟩
    exact hothers i
  have hupholds := hreach.upholds (untold hquiet)
  have hrunning : ((p.running.map Task.turns).map m.spent).sum = 0 := by
    apply List.sum_eq_zero
    intro n hn
    obtain ⟨turns, hturns, rfl⟩ := List.mem_map.1 hn
    obtain ⟨task, htask, rfl⟩ := List.mem_map.1 hturns
    cases hrequest : task.request with
    | inl r => exact absurd hrequest (hcompleted.running task htask r)
    | inr i => exact (hupholds.running task htask ⟨i, hrequest⟩).2 m
  have hended : ((p.ended.map Outcome.turns).map m.spent).sum =
      ((answered p).map fun a ↦ m.spent a.turns).sum := by
    apply sum_spent_ended
    intro o ho hnone
    obtain ⟨request, since, turns, result⟩ := o
    cases request with
    | inr i => exact hupholds.ended _ ho ⟨i, rfl⟩ m
    | inl r =>
      cases result with
      | none => exact absurd rfl (hcompleted.ended _ ho r rfl)
      | some x => simp [answered?] at hnone
  have hzero : m.read service.metrics = 0 := by
    rw [hfresh]
    cases m <;> rfl
  have hsound : service.metrics.Sound := hfresh ▸ Metrics.Registry.sound_empty
  rw [hreach.read m hsound, hzero, Pool.turns, List.map_append, List.sum_append, hrunning, hended]
  omega

/-- Whatever the store and the cluster answer, in whatever order requests have their turns and wherever
their deadlines pass, the counters agree with the replies once all requests have been answered. -/
theorem metered (hothers : ∀ i, (others i).Uncounting) (hfresh : service.metrics = .empty)
    (hreach : p.Reachable service) (hcompleted : Completed p)
    (hrouted : ∀ a ∈ answered p, a.request.Fits ∧ a.request.method ≠ "HEAD") : Metered p := by
  have hsound := hreach.sound (hfresh ▸ Metrics.Registry.sound_empty)
  have hturns : ∀ a ∈ answered p, ∀ turn ∈ a.turns, turn.1.metrics.Sound :=
    fun a ha ↦ hsound.2 a.turns (mem_turns_of_mem ha)
  have haccounted : ∀ a ∈ answered p, Accounted ctx a :=
    fun a ha ↦ accounted_of_mem hreach ha (hrouted a ha).1 (hrouted a ha).2
  have hspent : ∀ m : Meter, ∀ a ∈ answered p, m.spent a.turns = a.adds ctx m := by
    intro m a ha
    obtain ⟨calls, hmakes, hadds⟩ := (haccounted a ha).adds
    rw [m.spent_of_makes hmakes (hturns a ha), hadds]
  have hread (m : Meter) (P : Answered → Bool)
      (hP : ∀ a ∈ answered p, a.adds ctx m = (P a).toNat) :
      m.read p.service.metrics = (answered p).countP P := by
    rw [read_eq_sum hothers hfresh hreach hcompleted m]
    exact sum_eq_countP fun a ha ↦ (hspent m a ha).trans (hP a ha)
  constructor
  case served => exact map_observe ctx
  case requests =>
    intro name hname
    apply hread (.requests name)
    intro a _
    rw [Answered.adds_requests, Answered.decide_recordedAs hname]
  case latencies =>
    intro name hname
    apply hread (.latencies name)
    intro a _
    rw [Answered.adds_latencies, Answered.adds_requests, Answered.decide_recordedAs hname]
  case errors =>
    intro name hname
    apply hread (.errors name)
    exact fun a ha ↦ (haccounted a ha).errors_eq hname
  case unknown =>
    refine ⟨?_, ?_, fun a ha ↦ (haccounted a ha).unlisted⟩
    · apply hread (.requests "unknown")
      intro a _
      rw [Answered.adds_requests, decide_eq_decide.2 Answered.recordedAs_eq_unknown]
    · have hnone := hread (.errors "unknown") (fun _ ↦ false) fun a ha ↦
        (haccounted a ha).errors_unknown
      rwa [List.countP_false] at hnone
  case kinds => exact hsound.1.failures
  case contention =>
    apply hread .contention
    exact fun a ha ↦ (haccounted a ha).contention_eq
  case masked =>
    apply hread .maskedContention
    exact fun a _ ↦ Answered.adds_maskedContention
  case unexposed =>
    intro a ha hmasked turn hturn
    have hsame {m : Meter} (hm : a.handling.failure? = none → a.adds ctx m = 0) :
        m.read turn.2.metrics = m.read turn.1.metrics :=
      (haccounted a ha).read_turn_of_masked hmasked (hturns a ha) hm turn hturn
    refine ⟨hsame (m := .contention) ?_, hsame (m := .failuresByKind) ?_,
      fun name ↦ hsame (m := .errors name) ?_⟩
    · exact fun hnone ↦ by simp [Answered.adds_contention, hnone]
    · exact fun hnone ↦ by simp [Answered.adds_failuresByKind, hnone]
    · exact fun hnone ↦ by simp [Answered.adds_errors, hnone]

end Observing

theorem uncounting_writer : writer.Uncounting := by
  apply Program.Meets.bind
  apply Program.Meets.imp (Service.uncounting_onStore (Database.execAlone insertion))
  exact fun _ _ _ ↦ trivial

/-- While another task writes, an account creation gives up its wait for the lock, and so does a
transfer; an addition to the set waits until its deadline has passed.  Then a path is asked for that no
endpoint has, and who leads. -/
def traffic : Option (Pool (observing nodeA fun _ : Unit ↦ writer)) :=
  let request (method path body : String) : Choice (observing nodeA fun _ : Unit ↦ writer) :=
    .start (Sum.inl ⟨method, path, [], body.toUTF8⟩)
  let start : Service :=
    { Service.fresh 5 with
      store := (History.withTable 5).store
      cluster := ⟨[⟨1, "10.0.0.2:1", .voter⟩], some 1, 1⟩ }
  (Pool.idle start).run
    [.start (Sum.inr ()), .advance 0, .advance 0,
      request "PUT" "/bank" "\x7b:accounts [1 2] :total-amount 10\x7d",
      .advance 1, .advance 1, .advance 1, .advance 1, .advance 1, .advance 1, .advance 1,
      request "POST" "/bank" "\x7b:from 1 :to 2 :amount 5\x7d",
      .advance 1, .advance 1, .advance 1, .advance 1, .advance 1,
      request "POST" "/set" "7", .advance 1, .advance 1, .expire 1, .advance 1, .advance 0,
      request "GET" "/nowhere" "", .advance 0,
      request "GET" "/leader" "", .advance 0, .advance 0, .advance 0]

/-- All requests have been answered, within the limits. -/
def allAnswered (p : Pool (observing nodeA fun _ : Unit ↦ writer)) : Bool :=
  p.running.isEmpty && p.ended.all (fun o ↦ o.result.isSome) &&
    (answered p).all fun a ↦ decide (a.request.declaredLength?.getD 0 ≤ maxBodyBytes ∧
      a.request.body.size ≤ a.request.bodyLimit ∧ a.request.method ≠ "HEAD")

theorem metered_traffic :
    ∃ p, traffic = some p ∧
      (answered p).map (·.response.body) = [nilReply, Reply.ofError .contention,
        Reply.ofError .deadlineExceeded, Reply.badRequest, quotedName "b"] ∧
      (p.service.metrics.endpoint "bank").requests = 2 ∧
      (p.service.metrics.endpoint "bank").errors = 1 ∧
      p.service.metrics.contention = 1 ∧ p.service.metrics.maskedContention = 1 ∧ Metered p := by
  have htraffic : traffic.map (fun p ↦ (allAnswered p, (answered p).map (·.response.body),
      (p.service.metrics.endpoint "bank").requests, (p.service.metrics.endpoint "bank").errors,
      p.service.metrics.contention, p.service.metrics.maskedContention)) =
      some (true, [nilReply, Reply.ofError .contention, Reply.ofError .deadlineExceeded,
        Reply.badRequest, quotedName "b"], 2, 1, 1, 1) := by
    decide +kernel
  obtain ⟨p, hp, hfound⟩ := Option.map_eq_some_iff.1 htraffic
  simp only [Prod.mk.injEq] at hfound
  obtain ⟨hall, hbodies, hrequests, herrors, hcontention, hmasked⟩ := hfound
  simp only [allAnswered, Bool.and_eq_true, List.isEmpty_iff, List.all_eq_true,
    decide_eq_true_eq] at hall
  obtain ⟨⟨hrunning, hended⟩, hrouted⟩ := hall
  have hcompleted : Completed p := by
    constructor
    case running => simp [hrunning]
    case ended => exact fun o ho r _ ↦ Option.isSome_iff_ne_none.1 (hended o ho)
  have hmetered : Metered p :=
    metered (fun _ ↦ uncounting_writer) rfl (Pool.Reachable.start.run hp) hcompleted
      fun a ha ↦ ⟨⟨(hrouted a ha).1, (hrouted a ha).2.1⟩, (hrouted a ha).2.2⟩
  exact ⟨p, hp, hbodies, hrequests, herrors, hcontention, hmasked, hmetered⟩

end Turnstile.Http
