import Turnstile.Proofs.Tasks.Reliance

/-!
# The course of a run

The steps of a run come one after another, and so do the turns of its tasks.  A relation between a
service and a later one that every step respects holds over any stretch of a run, and between what a
task has left behind at one of its turns and what it finds at the next.

A task that has ended stays among those that have ended, with all its turns.
-/

namespace Turnstile

variable {W : Workload} {s₀ : Service}

namespace Pool

/-- The pools that a pool can become. -/
def Later (p p' : Pool W) : Prop :=
  Relation.ReflTransGen Step p p'

theorem Reachable.later {p p' : Pool W} (hreach : Reachable s₀ p) (hlater : p.Later p') :
    Reachable s₀ p' := by
  induction hlater with
  | refl => exact hreach
  | tail _ hstep ih => exact ih.step hstep

/-- A step makes the next call of a task, gives up a ticket or does nothing to the service. -/
theorem Step.service {p p' : Pool W} (hstep : Step p p') :
    (∃ task ∈ p.running, ∃ c, task.rest.call? = some c ∧
        p'.service = (Service.answer c p.service).2) ∨
      ∃ t, p'.service = p.service.release t := by
  obtain ⟨hsame, _⟩ | ⟨task, htask, _, _, _, ⟨c, hcall, hservice⟩ | hrelease⟩ := hstep.turns
  · exact .inr ⟨none, hsame⟩
  · exact .inl ⟨task, htask, c, hcall, hservice⟩
  · exact .inr hrelease

/-- With a step at most one task ends: by the turn that is the step, or without any turn. -/
theorem Step.ended {p p' : Pool W} (hstep : Step p p') :
    p'.ended = p.ended ∨ ∃ o : Outcome W, p'.ended = p.ended ++ [o] ∧
      (o.turns = [] ∨ ∃ first, o.turns = first ++ [(p.service, p'.service)]) := by
  cases hstep with
  | start r elapsed =>
    unfold put
    split
    case h_1 result _ => exact .inr ⟨_, rfl, .inl rfl⟩
    case h_2 => exact .inl rfl
  | @advance before after task elapsed rest service hrunning hadvances =>
    unfold put
    split
    case h_1 result _ => exact .inr ⟨_, rfl, .inr ⟨task.turns, rfl⟩⟩
    case h_2 => exact .inl rfl
  | @drop before after task hrunning => exact .inr ⟨_, rfl, .inr ⟨task.turns, rfl⟩⟩

/-- A relation between services that holds over any stretch of a run from `s₀`. -/
structure Lasts (W : Workload) (s₀ : Service) (r : Service → Service → Prop) : Prop where
  refl : ∀ s, r s s
  trans : ∀ s s' s'', r s s' → r s' s'' → r s s''
  step : ∀ p p' : Pool W, Reachable s₀ p → Step p p' → r p.service p'.service

namespace Lasts

variable {r : Service → Service → Prop} {p p' : Pool W}

theorem later (hlasts : Lasts W s₀ r) (hreach : Reachable s₀ p) (hlater : p.Later p') :
    r p.service p'.service := by
  induction hlater with
  | refl => exact hlasts.refl p.service
  | @tail q q' hlater hstep ih =>
    exact hlasts.trans _ _ _ ih (hlasts.step q q' (hreach.later hlater) hstep)

/-- What a task has left behind at its turns precedes the service as it is. -/
theorem turn (hlasts : Lasts W s₀ r) (hreach : Reachable s₀ p) :
    ∀ turns ∈ p.turns, ∀ turn ∈ turns, r turn.2 p.service := by
  induction hreach with
  | start => exact fun turns hturns ↦ absurd hturns List.not_mem_nil
  | @step p p' hreach hstep ih =>
    have hstays := hlasts.step p p' hreach hstep
    intro turns hturns turn hturn
    obtain ⟨hservice, hperm⟩ | ⟨task, _, rest, hbefore, hafter, _⟩ := hstep.turns
    · obtain rfl | hold := List.mem_cons.1 (hperm.mem_iff.1 hturns)
      · exact absurd hturn List.not_mem_nil
      · exact hlasts.trans _ _ _ (ih turns hold turn hturn) hstays
    · obtain rfl | hother := List.mem_cons.1 (hafter.mem_iff.1 hturns)
      · obtain hold | hnew := List.mem_append.1 hturn
        · have hmem : task.turns ∈ p.turns := hbefore.mem_iff.2 List.mem_cons_self
          exact hlasts.trans _ _ _ (ih task.turns hmem turn hold) hstays
        · obtain rfl := List.mem_singleton.1 hnew
          exact hlasts.refl p'.service
      · have hmem : turns ∈ p.turns := hbefore.mem_iff.2 (List.mem_cons_of_mem _ hother)
        exact hlasts.trans _ _ _ (ih turns hmem turn hturn) hstays

theorem running (hlasts : Lasts W s₀ r) (hreach : Reachable s₀ p) {task : Task W}
    (htask : task ∈ p.running) : ∀ turn ∈ task.turns, r turn.2 p.service :=
  hlasts.turn hreach task.turns (List.mem_append_left _ (List.mem_map_of_mem htask))

end Lasts

end Pool

/-! ## Turns as evidence -/

/-- The protocol of a task that remembers its turns and finds the service as `Finds` says when it
makes its next call. -/
def remembering (Finds : List (Service × Service) → Service.interface.Call → Service → Prop) :
    Protocol Service.interface (List (Service × Service)) where
  Permits _ _ := True
  Follows turns c a turns' := ∃ s, Finds turns c s ∧ a = (Service.answer c s).1 ∧
    turns' = turns ++ [(s, (Service.answer c s).2)]

/-- If every call of a running task finds the service as `Finds` says, results mean what can be shown
from that. -/
theorem Pool.Reachable.remembers
    {Finds : List (Service × Service) → Service.interface.Call → Service → Prop}
    {Result : (r : W.Request) → W.Result r → List (Service × Service) → Prop}
    (hserve : ∀ r, (W.serve r).Shows (remembering Finds) (Result r) [])
    (hfinds : ∀ (p : Pool W) (task : Task W) (c : Service.interface.Call), p.Reachable s₀ →
      task ∈ p.running → task.rest.call? = some c → Finds task.turns c p.service)
    {p : Pool W} (hreach : p.Reachable s₀) {o : Outcome W} (ho : o ∈ p.ended)
    {result : W.Result o.request} (hresult : o.result = some result) :
    Result o.request result o.turns := by
  let E : Evidence W (List (Service × Service)) := ⟨remembering Finds, id, fun _ ↦ True, Result⟩
  have hholds : E.Holds s₀ := by
    constructor
    case start => trivial
    case serve => exact hserve
    case answer =>
      intro p task c hreach htask hcall _ _
      exact ⟨⟨p.service, hfinds p task c hreach htask hcall, rfl, rfl⟩, trivial⟩
    case release => exact fun _ _ _ ↦ trivial
  exact (hreach.shows hholds).ended o ho result hresult

end Turnstile
