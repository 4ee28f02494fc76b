import Mathlib.Logic.Relation
import Turnstile.Proofs.Tasks.Pool
import Turnstile.Proofs.Tasks.Protocol

/-!
# What tasks know

A task sees the service at its own turns and at no other moment.  What it knows is read off the turns
that it has had, and the answer to its next call adds to that what a protocol says, as long as all
tasks keep the service in a state in which the protocol is right.  The result of a task then means
what is said of it and of all that the task knows at its end.

The deadline of limited work can pass at any call, so what follows the work is to go on from nothing
that the work has found out.
-/

namespace Turnstile

/-- Where any call can be made, any program can. -/
theorem Program.meets_any {I : Interface} {α σ : Type} {P : Protocol I σ}
    (hpermits : ∀ k c, P.Permits k c) {D : σ → Prop} (hD : ∀ k, D k) {Q : α → σ → Prop}
    (hQ : ∀ a k, Q a k) (p : Program I α) (k : σ) : p.Meets P D Q k := by
  induction p generalizing k with
  | done a => exact hQ a k
  | call c next ih => exact ⟨hD k, hpermits k c, fun a k' _ ↦ ih a k'⟩

namespace Activity

variable {R σ : Type}

/-- The activity makes only calls that the protocol permits, and `Q` is true of its result and of
what is known then. -/
def Shows (P : Protocol Service.interface σ) (Q : R → σ → Prop) :
    Activity Service.interface R → σ → Prop
  | run p, k => p.Meets P (fun _ ↦ True) Q k
  | limited _ work finish, k =>
    work.Meets P
      (fun _ ↦ ∀ elapsed k, (finish none elapsed).Meets P (fun _ ↦ True) Q k)
      (fun a k ↦ ∀ elapsed, (finish (some a) elapsed).Meets P (fun _ ↦ True) Q k) k
  | after _ next, _ => ∀ k, next.Shows P Q k

theorem shows_any {P : Protocol Service.interface σ} (hpermits : ∀ k c, P.Permits k c)
    {Q : R → σ → Prop} (hQ : ∀ r k, Q r k) (a : Activity Service.interface R) (k : σ) :
    a.Shows P Q k := by
  have hmeets (p : Program Service.interface R) (k : σ) : p.Meets P (fun _ ↦ True) Q k :=
    p.meets_any hpermits (fun _ ↦ trivial) hQ k
  induction a generalizing k with
  | run p => exact hmeets p k
  | limited limit work finish =>
    apply work.meets_any hpermits
    · exact fun _ k elapsed ↦ hmeets _ k
    · exact fun _ elapsed k ↦ hmeets _ k
  | after pause next ih => exact fun k ↦ ih k

/-- The call that an activity has left to make next. -/
def call? : Activity Service.interface R → Option Service.interface.Call
  | run (.call c _) => some c
  | limited _ (.call c _) _ => some c
  | _ => none

variable {P : Protocol Service.interface σ} {Q : R → σ → Prop} {a rest : Activity Service.interface R}
  {k k' : σ} {s s' : Service} {elapsed : Duration}

theorem call?_eq_some {c : Service.interface.Call} (hcall : a.call? = some c) :
    (∃ next, a = run (.call c next)) ∨
      ∃ (α : Type) (limit : Nat) (next : _ → Program Service.interface α)
        (finish : Option α → Duration → Program Service.interface R),
        a = limited limit (.call c next) finish := by
  unfold call? at hcall
  split at hcall
  case h_1 =>
    obtain rfl := Option.some.inj hcall
    exact .inl ⟨_, rfl⟩
  case h_2 =>
    obtain rfl := Option.some.inj hcall
    exact .inr ⟨_, _, _, _, rfl⟩
  case h_3 => simp at hcall

theorem Shows.permits (ha : a.Shows P Q k) {c : Service.interface.Call} (hcall : a.call? = some c) :
    P.Permits k c := by
  obtain ⟨next, rfl⟩ | ⟨α, limit, next, finish, rfl⟩ := call?_eq_some hcall
  · exact ha.2.1
  · exact ha.2.1

/-- With a turn an activity makes its call, gives up its ticket or does nothing to the service. -/
theorem Advances.service (hadvances : a.Advances s elapsed rest s') :
    (∃ c, a.call? = some c ∧ s' = (Service.answer c s).2) ∨ ∃ t, s' = s.release t := by
  cases hadvances with
  | call c next => exact .inl ⟨c, rfl, rfl⟩
  | work limit c next finish => exact .inl ⟨c, rfl, rfl⟩
  | expire limit c next finish => exact .inr ⟨_, rfl⟩
  | wake pause next => exact .inr ⟨none, rfl⟩

/-- The activity goes on from what it knows after its turn if the answer was as the protocol says. -/
theorem Shows.advance (ha : a.Shows P Q k) (hadvances : a.Advances s elapsed rest s')
    (hfollows : ∀ c, a.call? = some c → s' = (Service.answer c s).2 →
      P.Follows k c (Service.answer c s).1 k') : rest.Shows P Q k' := by
  cases hadvances with
  | call c next => exact ha.2.2 _ k' (hfollows c rfl rfl)
  | work limit c next finish => exact ha.2.2 _ k' (hfollows c rfl rfl)
  | expire limit c next finish => exact ha.1 elapsed k'
  | wake pause next => exact ha k'

theorem Shows.proceed (ha : a.Shows P Q k) (elapsed : Duration) :
    (∃ r, a.proceed elapsed = .inl r ∧ Q r k) ∨
      ∃ rest, a.proceed elapsed = .inr rest ∧ rest.Shows P Q k := by
  cases a with
  | run p =>
    cases p with
    | done r => exact .inl ⟨r, rfl, ha⟩
    | call c next => exact .inr ⟨_, rfl, ha⟩
  | limited limit work finish =>
    cases work with
    | done a =>
      have hfinish := ha elapsed
      cases hp : finish (some a) elapsed with
      | done r =>
        rw [hp] at hfinish
        refine .inl ⟨r, ?_, hfinish⟩
        simp only [Activity.proceed, hp]
      | call c next =>
        rw [hp] at hfinish
        refine .inr ⟨run (.call c next), ?_, hfinish⟩
        simp only [Activity.proceed, hp]
    | call c next => exact .inr ⟨_, rfl, ha⟩
  | after pause next => exact .inr ⟨_, rfl, ha⟩

theorem Shows.imp {Q' : R → σ → Prop} (ha : a.Shows P Q k) (hQ : ∀ r k, Q r k → Q' r k) :
    a.Shows P Q' k := by
  induction a generalizing k with
  | run p => exact Program.Meets.imp ha hQ
  | limited limit work finish =>
    apply Program.Meets.mono ha
    · exact fun _ hcut elapsed k ↦ (hcut elapsed k).imp hQ
    · exact fun _ _ hend elapsed ↦ (hend elapsed).imp hQ
  | after pause next ih => exact fun k ↦ ih (ha k)

/-- A change of the result changes what is said of it. -/
theorem Shows.map {S : Type} {Q : S → σ → Prop} {f : R → S}
    (ha : a.Shows P (fun r k ↦ Q (f r) k) k) : (a.map f).Shows P Q k := by
  induction a generalizing k with
  | run p => exact Program.Meets.bind ha
  | limited limit work finish =>
    apply Program.Meets.mono ha
    · exact fun _ hcut elapsed k ↦ Program.Meets.bind (hcut elapsed k)
    · exact fun _ _ hend elapsed ↦ Program.Meets.bind (hend elapsed)
  | after pause next ih => exact fun k ↦ ih (ha k)

end Activity

/-- What the tasks of a workload know, and what their results mean. -/
structure Evidence (W : Workload) (σ : Type) where
  protocol : Protocol Service.interface σ
  /-- What a task knows after its turns. -/
  knows : List (Service × Service) → σ
  /-- What all tasks keep true of the service. -/
  Safe : Service → Prop
  /-- What is true of the results and of what is known then. -/
  Result : (r : W.Request) → W.Result r → σ → Prop

variable {W : Workload} {σ : Type} {E : Evidence W σ} {s₀ : Service}

/-- The protocol is right from a service on. -/
structure Evidence.Holds (E : Evidence W σ) (s₀ : Service) : Prop where
  start : E.Safe s₀
  serve : ∀ r, (W.serve r).Shows E.protocol (E.Result r) (E.knows [])
  /-- The next call of a task is answered as the protocol says, and keeps the service safe. -/
  answer : ∀ (p : Pool W) (task : Task W) (c : Service.interface.Call), Pool.Reachable s₀ p →
    task ∈ p.running → task.rest.call? = some c → E.Safe p.service →
    E.protocol.Permits (E.knows task.turns) c →
    E.protocol.Follows (E.knows task.turns) c (Service.answer c p.service).1
        (E.knows (task.turns ++ [(p.service, (Service.answer c p.service).2)])) ∧
      E.Safe (Service.answer c p.service).2
  release : ∀ s t, E.Safe s → E.Safe (s.release t)

namespace Pool

/-- What tasks know is right in a pool, and so are their results. -/
structure Shows (E : Evidence W σ) (p : Pool W) : Prop where
  safe : E.Safe p.service
  running : ∀ task ∈ p.running,
    task.rest.Shows E.protocol (E.Result task.request) (E.knows task.turns)
  ended : ∀ o ∈ p.ended, ∀ result, o.result = some result →
    E.Result o.request result (E.knows o.turns)

/-- A task goes on after its turn or ends with a result. -/
theorem Shows.put {p : Pool W} {service : Service} {before after : List (Task W)}
    {elapsed : Duration} {task : Task W} (hp : p.Shows E) (hsafe : E.Safe service)
    (hothers : ∀ other ∈ before ++ after, other ∈ p.running)
    (htask : task.rest.Shows E.protocol (E.Result task.request) (E.knows task.turns)) :
    (p.put service before after elapsed task).Shows E := by
  unfold Pool.put
  obtain ⟨result, hproceed, hresult⟩ | ⟨rest, hproceed, hrest⟩ := htask.proceed elapsed
  · rw [hproceed]
    constructor
    case safe => exact hsafe
    case running => exact fun other hother ↦ hp.running other (hothers other hother)
    case ended =>
      intro o ho result' hresult'
      obtain hold | hnew := List.mem_append.1 ho
      · exact hp.ended o hold result' hresult'
      · obtain rfl := List.mem_singleton.1 hnew
        obtain rfl := Option.some.inj hresult'
        exact hresult
  · rw [hproceed]
    constructor
    case safe => exact hsafe
    case running =>
      intro other hother
      obtain rfl | hold := List.mem_cons.1 (List.perm_middle.mem_iff.1 hother)
      · exact hrest
      · exact hp.running other (hothers other hold)
    case ended => exact hp.ended

theorem Shows.step {p p' : Pool W} (hholds : E.Holds s₀) (hreach : Reachable s₀ p)
    (hp : p.Shows E) (hstep : Step p p') : p'.Shows E := by
  cases hstep with
  | start r elapsed =>
    apply hp.put hp.safe (by simp)
    exact hholds.serve r
  | @advance before after task elapsed rest service hrunning hadvances =>
    have hmem : task ∈ p.running := by simp [hrunning]
    have htask := hp.running task hmem
    have hanswer (c : Service.interface.Call) (hcall : task.rest.call? = some c) :=
      hholds.answer p task c hreach hmem hcall hp.safe (htask.permits hcall)
    apply hp.put
    case hsafe =>
      obtain ⟨c, hcall, rfl⟩ | ⟨t, rfl⟩ := hadvances.service
      · exact (hanswer c hcall).2
      · exact hholds.release p.service t hp.safe
    case hothers =>
      intro other hother
      rw [hrunning]
      exact List.perm_middle.mem_iff.2 (List.mem_cons_of_mem task hother)
    case htask =>
      apply htask.advance hadvances
      rintro c hcall rfl
      exact (hanswer c hcall).1
  | @drop before after task hrunning =>
    constructor
    case safe => exact hholds.release p.service _ hp.safe
    case running =>
      intro other hother
      apply hp.running
      rw [hrunning]
      exact List.perm_middle.mem_iff.2 (List.mem_cons_of_mem task hother)
    case ended =>
      intro o ho result hresult
      obtain hold | hnew := List.mem_append.1 ho
      · exact hp.ended o hold result hresult
      · obtain rfl := List.mem_singleton.1 hnew
        exact absurd hresult (Option.some_ne_none result).symm

/-- Whatever the order of the turns, what tasks know is right. -/
theorem Reachable.shows {p : Pool W} (hholds : E.Holds s₀) (hreach : Reachable s₀ p) :
    p.Shows E := by
  induction hreach with
  | start => exact ⟨hholds.start, nofun, nofun⟩
  | step hreach hstep ih => exact ih.step hholds hreach hstep

end Pool

end Turnstile
