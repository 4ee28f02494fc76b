import Turnstile.Proofs.Tasks.Evidence
import Turnstile.Proofs.Tasks.Explanation

/-!
# What tasks rely on

The answers that a task gets depend on what the other tasks have made of the service.  A task can
rely on a protocol for them if all tasks keep the service in a state in which the answers are as the
protocol says.  What the protocol takes a task to know is read off the turns that it has had.

The deadline of limited work can pass at any call, so what follows the work is to rely on nothing
that the work has found out.
-/

namespace Turnstile

open Store (History)

namespace Activity

variable {R σ : Type}

/-- The activity makes only calls that the protocol permits, and `Q` is true of its result. -/
def Relies (P : Protocol Service.interface σ) (Q : R → Prop) :
    Activity Service.interface R → σ → Prop
  | run p, s => p.Meets P (fun _ ↦ True) (fun r _ ↦ Q r) s
  | limited _ work finish, s =>
    work.Meets P
      (fun _ ↦ ∀ elapsed s, (finish none elapsed).Meets P (fun _ ↦ True) (fun r _ ↦ Q r) s)
      (fun a s ↦ ∀ elapsed, (finish (some a) elapsed).Meets P (fun _ ↦ True) (fun r _ ↦ Q r) s) s
  | after _ next, _ => ∀ s, next.Relies P Q s

variable {P : Protocol Service.interface σ} {Q : R → Prop} {a rest : Activity Service.interface R}
  {k : σ}

theorem relies_iff_shows : a.Relies P Q k ↔ a.Shows P (fun r _ ↦ Q r) k := by
  induction a generalizing k with
  | run p => exact .rfl
  | limited limit work finish => exact .rfl
  | after pause next ih => exact forall_congr' fun _ ↦ ih

/-- A change of the result changes what is said of it. -/
theorem Relies.map {S : Type} {Q : S → Prop} {f : R → S} (ha : a.Relies P (fun r ↦ Q (f r)) k) :
    (a.map f).Relies P Q k :=
  relies_iff_shows.2 (Shows.map (relies_iff_shows.1 ha))

theorem Relies.imp {Q' : R → Prop} (ha : a.Relies P Q k) (hQ : ∀ r, Q r → Q' r) :
    a.Relies P Q' k :=
  relies_iff_shows.2 (Shows.imp (relies_iff_shows.1 ha) fun r _ ↦ hQ r)

theorem Meets.permits {During : Deeds → Prop} {After : R → Deeds → Prop} {s : Standing}
    (ha : a.Meets During After s) {c : Service.interface.Call} (hcall : a.call? = some c) :
    Service.Permits s c := by
  obtain ⟨next, rfl⟩ | ⟨α, limit, next, finish, rfl⟩ := call?_eq_some hcall
  · exact ha.2.1
  · exact ha.2.1

theorem Relies.permits (ha : a.Relies P Q k) {c : Service.interface.Call}
    (hcall : a.call? = some c) : P.Permits k c :=
  (relies_iff_shows.1 ha).permits hcall

end Activity

/-- A task that keeps to its contract makes only calls that the store allows. -/
theorem Pool.Reachable.allows {W : Workload} {C : Contract W} (hhonored : C.Honored)
    {h₀ : History} (c : h₀.Consistent) {service : Service} (hstore : h₀.store = service.store)
    {p : Pool W} (hreach : p.Reachable service) {task : Task W} (htask : task ∈ p.running)
    {call : Store.interface.Call} (hcall : task.rest.call? = some (.store call)) :
    ∃ h : History, h.Consistent ∧ h.store = p.service.store ∧ h.Allows call := by
  obtain ⟨h, running, ended, he⟩ := hreach.explained hhonored c hstore
  rw [he.tasks] at htask
  obtain ⟨⟨_, s⟩, hx, rfl⟩ := List.mem_map.1 htask
  have hpermits := (he.ongoing _ hx).meets.permits hcall
  have hfits : s.Fits h := he.shares.fits s (List.mem_map_of_mem hx)
  exact ⟨h, he.consistent, he.store, (Standing.leads_call he.consistent hfits hpermits).1⟩

/-- What the tasks of a workload rely on, and what they keep to. -/
structure Reliance (W : Workload) (σ : Type) where
  protocol : Protocol Service.interface σ
  /-- What a task knows after its turns. -/
  knows : List (Service × Service) → σ
  /-- What all tasks keep true of the service. -/
  Safe : Service → Prop
  /-- What is true of the results. -/
  Result : (r : W.Request) → W.Result r → Prop

variable {W : Workload} {σ : Type} {L : Reliance W σ} {s₀ : Service}

/-- Tasks can rely on it from a service on. -/
structure Reliance.Holds (L : Reliance W σ) (s₀ : Service) : Prop where
  start : L.Safe s₀
  serve : ∀ r, (W.serve r).Relies L.protocol (L.Result r) (L.knows [])
  /-- The next call of a task is answered as the protocol says, and keeps the service safe. -/
  answer : ∀ (p : Pool W) (task : Task W) (c : Service.interface.Call), Pool.Reachable s₀ p →
    task ∈ p.running → task.rest.call? = some c → L.Safe p.service →
    L.protocol.Permits (L.knows task.turns) c →
    L.protocol.Follows (L.knows task.turns) c (Service.answer c p.service).1
        (L.knows (task.turns ++ [(p.service, (Service.answer c p.service).2)])) ∧
      L.Safe (Service.answer c p.service).2
  release : ∀ s t, L.Safe s → L.Safe (s.release t)

/-- What tasks rely on as what they know; the results mean the same whatever is known. -/
def Reliance.evidence (L : Reliance W σ) : Evidence W σ where
  protocol := L.protocol
  knows := L.knows
  Safe := L.Safe
  Result r result _ := L.Result r result

theorem Reliance.Holds.evidence (hholds : L.Holds s₀) : L.evidence.Holds s₀ where
  start := hholds.start
  serve r := Activity.relies_iff_shows.1 (hholds.serve r)
  answer := hholds.answer
  release := hholds.release

namespace Pool

/-- What tasks rely on is true in a pool. -/
structure Relies (L : Reliance W σ) (p : Pool W) : Prop where
  safe : L.Safe p.service
  running : ∀ task ∈ p.running,
    task.rest.Relies L.protocol (L.Result task.request) (L.knows task.turns)
  ended : ∀ o ∈ p.ended, ∀ result, o.result = some result → L.Result o.request result

/-- Whatever the order of the turns, tasks get what they rely on. -/
theorem Reachable.relies {p : Pool W} (hholds : L.Holds s₀) (hreach : Reachable s₀ p) :
    p.Relies L := by
  have hshows : p.Shows L.evidence := hreach.shows hholds.evidence
  constructor
  case safe => exact hshows.safe
  case running => exact fun task htask ↦ Activity.relies_iff_shows.2 (hshows.running task htask)
  case ended => exact hshows.ended

/-! ## The turns of all tasks -/

/-- The turns of each task, running or ended. -/
def turns (p : Pool W) : List (List (Service × Service)) :=
  p.running.map Task.turns ++ p.ended.map Outcome.turns

theorem turns_split {p : Pool W} {before after : List (Task W)} {task : Task W}
    (hrunning : p.running = before ++ task :: after) :
    p.turns.Perm (task.turns :: ((before ++ after).map Task.turns ++ p.ended.map Outcome.turns)) := by
  unfold turns
  rw [hrunning]
  exact (List.perm_middle.map Task.turns).append_right _

theorem turns_put (p : Pool W) (service : Service) (before after : List (Task W))
    (elapsed : Duration) (task : Task W) :
    (p.put service before after elapsed task).turns.Perm
      (task.turns :: ((before ++ after).map Task.turns ++ p.ended.map Outcome.turns)) := by
  unfold put
  split
  · simp only [turns, List.map_append, List.map_cons, List.map_nil, ← List.append_assoc]
    exact List.perm_append_singleton ..
  · exact (List.perm_middle.map Task.turns).append_right _

/-- A step begins a task, which changes nothing, or adds a turn to one of those that run. -/
theorem Step.turns {p p' : Pool W} (hstep : Step p p') :
    p'.service = p.service ∧ p'.turns.Perm ([] :: p.turns) ∨
      ∃ task ∈ p.running, ∃ rest, p.turns.Perm (task.turns :: rest) ∧
        p'.turns.Perm ((task.turns ++ [(p.service, p'.service)]) :: rest) ∧
        ((∃ c, task.rest.call? = some c ∧ p'.service = (Service.answer c p.service).2) ∨
          ∃ t, p'.service = p.service.release t) := by
  have hservice (service : Service) (before after : List (Task W)) (elapsed : Duration)
      (task : Task W) : (p.put service before after elapsed task).service = service := by
    unfold put
    split <;> rfl
  cases hstep with
  | start r elapsed =>
    refine .inl ⟨hservice .., ?_⟩
    have hput := turns_put p p.service p.running [] elapsed ⟨r, p.ended.length, [], W.serve r⟩
    rwa [List.append_nil] at hput
  | @advance before after task elapsed rest service hrunning hadvances =>
    refine .inr ⟨task, by simp [hrunning], _, turns_split hrunning, ?_, ?_⟩
    · rw [hservice]
      exact turns_put ..
    · rw [hservice]
      exact hadvances.service
  | @drop before after task hrunning =>
    refine .inr ⟨task, by simp [hrunning], _, turns_split hrunning, ?_, .inr ⟨_, rfl⟩⟩
    simp only [Pool.turns, List.map_append, List.map_cons, List.map_nil, ← List.append_assoc]
    exact List.perm_append_singleton ..

end Pool

end Turnstile
