import Turnstile.Proofs.Tasks.Pool

/-!
# Runs by choice

A pool has many runs, and each is the work of choices: which task has the next turn, and whether it
makes its call, finds its deadline passed or is dropped.  Choices one after another can be computed,
and what they lead to can be reached.
-/

namespace Turnstile

namespace Activity

variable {R : Type}

/-- The activity after its next call or the end of its pause, and the service after it. -/
def advance (s : Service) :
    Activity Service.interface R → Option (Activity Service.interface R × Service)
  | run (.call c next) => some (run (next (Service.answer c s).1), (Service.answer c s).2)
  | limited limit (.call c next) finish =>
    some (limited limit (next (Service.answer c s).1) finish, (Service.answer c s).2)
  | after _ next => some (next, s)
  | _ => none

/-- The activity after its deadline has passed, and the service after it. -/
def expire (s : Service) (elapsed : Duration) :
    Activity Service.interface R → Option (Activity Service.interface R × Service)
  | limited _ (.call c _) finish =>
    some (run (finish none elapsed), s.release (Service.Call.ticket? c))
  | _ => none

variable {s service : Service} {elapsed : Duration} {a rest : Activity Service.interface R}

theorem advances_of_advance (hadvance : a.advance s = some (rest, service)) :
    a.Advances s elapsed rest service := by
  unfold advance at hadvance
  split at hadvance
  case h_1 c next =>
    obtain ⟨rfl, rfl⟩ := Prod.mk.inj (Option.some.inj hadvance)
    exact .call c next
  case h_2 limit c next finish =>
    obtain ⟨rfl, rfl⟩ := Prod.mk.inj (Option.some.inj hadvance)
    exact .work limit c next finish
  case h_3 pause next =>
    obtain ⟨rfl, rfl⟩ := Prod.mk.inj (Option.some.inj hadvance)
    exact .wake pause next
  case h_4 => simp at hadvance

theorem advances_of_expire (hexpire : a.expire s elapsed = some (rest, service)) :
    a.Advances s elapsed rest service := by
  unfold expire at hexpire
  split at hexpire
  case h_1 limit c next finish =>
    obtain ⟨rfl, rfl⟩ := Prod.mk.inj (Option.some.inj hexpire)
    exact .expire limit c next finish
  case h_2 => simp at hexpire

end Activity

/-- What can happen next in a pool; tasks are named by their places among those that run. -/
inductive Choice (W : Workload) where
  | start (r : W.Request)
  | advance (i : Nat)
  | expire (i : Nat)
  | drop (i : Nat)

namespace Pool

variable {W : Workload}

/-- The pool after a task has had its turn, nothing if it cannot have it. -/
def turn (p : Pool W) (i : Nat)
    (f : {R : Type} → Activity Service.interface R → Option (Activity Service.interface R × Service)) :
    Option (Pool W) :=
  match p.running[i]? with
  | none => none
  | some task =>
    match f task.rest with
    | none => none
    | some (rest, service) =>
      some (p.put service (p.running.take i) (p.running.drop (i + 1)) .zero
        ⟨task.request, task.since, task.turns ++ [(p.service, service)], rest⟩)

/-- The pool after a choice, nothing if it cannot be made. -/
def choose (p : Pool W) : Choice W → Option (Pool W)
  | .start r => some (p.put p.service p.running [] .zero ⟨r, p.ended.length, [], W.serve r⟩)
  | .advance i => p.turn i fun a ↦ a.advance p.service
  | .expire i => p.turn i fun a ↦ a.expire p.service .zero
  | .drop i =>
    match p.running[i]? with
    | none => none
    | some task =>
      let service := p.service.release task.rest.ticket?
      some
        { service
          running := p.running.take i ++ p.running.drop (i + 1)
          ended := p.ended ++
            [⟨task.request, task.since, task.turns ++ [(p.service, service)], none⟩] }

/-- The pool after choices one after another. -/
def run (p : Pool W) : List (Choice W) → Option (Pool W)
  | [] => some p
  | c :: rest => (p.choose c).bind fun p ↦ p.run rest

theorem split_of_getElem? {α : Type 1} {l : List α} {i : Nat} {a : α} (hi : l[i]? = some a) :
    l = l.take i ++ a :: l.drop (i + 1) := by
  obtain ⟨hlt, rfl⟩ := List.getElem?_eq_some_iff.1 hi
  rw [← List.drop_eq_getElem_cons hlt, List.take_append_drop]

theorem step_turn {p p' : Pool W} {i : Nat}
    {f : {R : Type} → Activity Service.interface R → Option (Activity Service.interface R × Service)}
    (hf : ∀ {R : Type} {a rest : Activity Service.interface R} {service : Service},
      f a = some (rest, service) → a.Advances p.service .zero rest service)
    (hturn : p.turn i f = some p') : Step p p' := by
  unfold turn at hturn
  cases htask : p.running[i]? with
  | none =>
    rw [htask] at hturn
    simp at hturn
  | some task =>
    rw [htask] at hturn
    simp only at hturn
    cases hrest : f task.rest with
    | none =>
      rw [hrest] at hturn
      simp at hturn
    | some result =>
      rw [hrest] at hturn
      rw [← Option.some.inj hturn]
      exact .advance (split_of_getElem? htask) (hf hrest)

theorem step_choose {p p' : Pool W} {c : Choice W} (hchoose : p.choose c = some p') :
    Step p p' := by
  cases c with
  | start r =>
    rw [← Option.some.inj hchoose]
    exact .start p r .zero
  | advance i => exact step_turn Activity.advances_of_advance hchoose
  | expire i => exact step_turn Activity.advances_of_expire hchoose
  | drop i =>
    simp only [choose] at hchoose
    cases htask : p.running[i]? with
    | none =>
      rw [htask] at hchoose
      simp at hchoose
    | some task =>
      rw [htask] at hchoose
      rw [← Option.some.inj hchoose]
      exact .drop (split_of_getElem? htask)

theorem Reachable.run {service : Service} {p p' : Pool W} (hreach : Reachable service p)
    {choices : List (Choice W)} (hrun : p.run choices = some p') : Reachable service p' := by
  induction choices generalizing p with
  | nil => exact Option.some.inj hrun ▸ hreach
  | cons c rest ih =>
    obtain ⟨p₁, hchoose, hrest⟩ := Option.bind_eq_some_iff.1 hrun
    exact ih (hreach.step (step_choose hchoose)) hrest

end Pool

end Turnstile
