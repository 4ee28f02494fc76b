import Turnstile.Proofs.Tasks.Reliance

/-!
# What leads a task to its end

A program that is told which services it finds makes its calls one after another, so its calls and the
answers to them can be read off its turns.  The turns of a task that has ended with a result are those
of its program, or, where the work is limited, those of the work followed by those of what comes after
it: between them there is one turn more if the work was cut off, at which its ticket was given up.

What is true of a task from its start and kept by each of its turns is true of it when it has ended.
-/

namespace Turnstile

/-- A call and the answer to it. -/
abbrev Exchange : Type :=
  Σ c : Service.interface.Call, Service.interface.Answer c

/-- The protocol of a program that remembers what it has been answered. -/
def conversing : Protocol Service.interface (List Exchange) where
  Permits _ _ := True
  Follows d c a d' := d' = d ++ [⟨c, a⟩]

namespace Program

variable {α : Type} {p q : Program Service.interface α} {turns : List (Service × Service)}

/-- A program comes to stand at another by making a call at each of these turns. -/
inductive Goes : Program Service.interface α → List (Service × Service) →
    Program Service.interface α → Prop where
  | stand (p : Program Service.interface α) : Goes p [] p
  | call {c : Service.interface.Call} {next : Service.interface.Answer c → Program Service.interface α}
      {turns : List (Service × Service)} {q : Program Service.interface α} (s : Service)
      (hnext : Goes (next (Service.answer c s).1) turns q) :
      Goes (.call c next) ((s, (Service.answer c s).2) :: turns) q

/-- The calls that a program makes when it finds these services, and what it is answered. -/
def dialogue : Program Service.interface α → List Service → List Exchange
  | done _, _ => []
  | call _ _, [] => []
  | call c next, s :: found =>
    ⟨c, (Service.answer c s).1⟩ :: (next (Service.answer c s).1).dialogue found

@[simp]
theorem dialogue_done (a : α) (found : List Service) :
    (done a : Program Service.interface α).dialogue found = [] := by
  cases found <;> rfl

theorem goes_done {a : α} (hgoes : (done a).Goes turns q) : turns = [] ∧ q = done a := by
  cases hgoes with
  | stand => exact ⟨rfl, rfl⟩

/-- A program that has ended has made its first call at its first turn. -/
theorem goes_call {c : Service.interface.Call}
    {next : Service.interface.Answer c → Program Service.interface α} {a : α}
    (hgoes : (call c next).Goes turns (done a)) :
    ∃ s later, turns = (s, (Service.answer c s).2) :: later ∧
      (next (Service.answer c s).1).Goes later (done a) := by
  cases hgoes with
  | call s hnext => exact ⟨s, _, rfl, hnext⟩

/-- A program with one call left has one turn left. -/
theorem goes_last {c : Service.interface.Call} {f : Service.interface.Answer c → α} {a : α}
    (hgoes : (call c fun answer ↦ done (f answer)).Goes turns (done a)) :
    ∃ s, turns = [(s, (Service.answer c s).2)] ∧ a = f (Service.answer c s).1 := by
  obtain ⟨s, later, rfl, hlater⟩ := goes_call hgoes
  obtain ⟨rfl, hdone⟩ := goes_done hlater
  exact ⟨s, rfl, done.inj hdone⟩

/-- What comes after an ended program is no part of its dialogue. -/
theorem Goes.dialogue_append (hgoes : p.Goes turns q) (found : List Service) :
    p.dialogue (turns.map Prod.fst ++ found) =
      p.dialogue (turns.map Prod.fst) ++ q.dialogue found := by
  induction hgoes with
  | stand p => cases p <;> rfl
  | call s _ ih =>
    simp only [List.map_cons, List.cons_append, dialogue, ih]

/-- A program that keeps to a protocol of its dialogue still does so where it stands. -/
theorem Goes.meets {D : List Exchange → Prop} {Q : α → List Exchange → Prop}
    (hgoes : p.Goes turns q) {d : List Exchange} (hp : p.Meets conversing D Q d) :
    q.Meets conversing D Q (d ++ p.dialogue (turns.map Prod.fst)) := by
  induction hgoes generalizing d with
  | stand p =>
    have hnil : p.dialogue [] = [] := by cases p <;> rfl
    rw [List.map_nil, hnil, List.append_nil]
    exact hp
  | @call c next turns q s _ ih =>
    let heard : Exchange := ⟨c, (Service.answer c s).1⟩
    have hfollows : conversing.Follows d c (Service.answer c s).1 (d ++ [heard]) := rfl
    have hnext := ih (hp.2.2 _ _ hfollows)
    rwa [List.append_assoc] at hnext

/-- A program can rely on what all services have in common. -/
theorem Goes.relies {P : Protocol Service.interface Unit} {Q : α → Prop}
    (hanswers : ∀ c s, P.Follows () c (Service.answer c s).1 ()) (hgoes : p.Goes turns q)
    (hp : p.Meets P (fun _ ↦ True) (fun a _ ↦ Q a) ()) :
    q.Meets P (fun _ ↦ True) (fun a _ ↦ Q a) () := by
  induction hgoes with
  | stand => exact hp
  | call s _ ih => exact ih (hp.2.2 _ () (hanswers _ s))

end Program

namespace Activity

variable {R : Type} {a rest : Activity Service.interface R} {r : R} {s s' : Service}
  {turns later : List (Service × Service)} {elapsed : Duration}

/-- An activity comes to its result by these turns. -/
def Ends : Activity Service.interface R → List (Service × Service) → R → Prop
  | run p, turns, r => p.Goes turns (.done r)
  | limited _ work finish, turns, r =>
    (∃ worked a elapsed later, turns = worked ++ later ∧ work.Goes worked (.done a) ∧
      (finish (some a) elapsed).Goes later (.done r)) ∨
    ∃ worked c next s elapsed later,
      turns = worked ++ (s, s.release (Service.Call.ticket? c)) :: later ∧
        work.Goes worked (.call c next) ∧ (finish none elapsed).Goes later (.done r)
  | after _ next, turns, r => ∃ s later, turns = (s, s) :: later ∧ next.Ends later r

theorem Ends.of_advances (hadvances : a.Advances s elapsed rest s') (hrest : rest.Ends later r) :
    a.Ends ((s, s') :: later) r := by
  cases hadvances with
  | call c next => exact .call s hrest
  | work limit c next finish =>
    obtain ⟨worked, a, elapsed, later, rfl, hwork, hfinish⟩ |
      ⟨worked, c, next, s', elapsed, later, rfl, hwork, hfinish⟩ := hrest
    · exact .inl ⟨_ :: worked, a, elapsed, later, rfl, .call s hwork, hfinish⟩
    · exact .inr ⟨_ :: worked, c, next, s', elapsed, later, rfl, .call s hwork, hfinish⟩
  | expire limit c next finish =>
    exact .inr ⟨[], c, next, s, elapsed, later, rfl, .stand _, hrest⟩
  | wake pause next => exact ⟨s, later, rfl, hrest⟩

theorem Ends.of_proceed (hproceed : a.proceed elapsed = .inr rest) (hrest : rest.Ends turns r) :
    a.Ends turns r := by
  unfold proceed at hproceed
  split at hproceed
  case h_1 => simp at hproceed
  case h_2 limit a finish =>
    split at hproceed
    case h_1 => simp at hproceed
    case h_2 hfinish =>
      obtain rfl := Sum.inr.inj hproceed
      exact .inl ⟨[], a, elapsed, turns, rfl, .stand _, hrest⟩
  case h_3 =>
    obtain rfl := Sum.inr.inj hproceed
    exact hrest

theorem ends_of_proceed (hproceed : a.proceed elapsed = .inl r) : a.Ends [] r := by
  unfold proceed at hproceed
  split at hproceed
  case h_1 =>
    obtain rfl := Sum.inl.inj hproceed
    exact .stand _
  case h_2 limit a finish =>
    split at hproceed
    case h_1 r' hfinish =>
      obtain rfl := Sum.inl.inj hproceed
      exact .inl ⟨[], a, elapsed, [], rfl, .stand _, hfinish ▸ .stand _⟩
    case h_2 => simp at hproceed
  case h_3 => simp at hproceed

end Activity

/-! ## What every turn of a task keeps -/

variable {W : Workload} {s₀ : Service}

/-- What is true of a task while it runs and what is true of it when it has ended, with the reasons. -/
structure TaskInvariant (W : Workload) where
  Ongoing : (r : W.Request) → Activity Service.interface (W.Result r) →
    List (Service × Service) → Prop
  Over : (r : W.Request) → List (Service × Service) → Option (W.Result r) → Prop
  start : ∀ r, Ongoing r (W.serve r) []
  advance : ∀ {r a turns s elapsed rest s'}, Ongoing r a turns →
    Activity.Advances s elapsed a rest s' → Ongoing r rest (turns ++ [(s, s')])
  proceed : ∀ {r a turns elapsed rest}, Ongoing r a turns → a.proceed elapsed = .inr rest →
    Ongoing r rest turns
  finish : ∀ {r a turns elapsed result}, Ongoing r a turns → a.proceed elapsed = .inl result →
    Over r turns (some result)
  drop : ∀ {r a turns} (s : Service), Ongoing r a turns →
    Over r (turns ++ [(s, s.release a.ticket?)]) none

namespace Pool

/-- What is true of all tasks of a pool. -/
structure Upholds (I : TaskInvariant W) (p : Pool W) : Prop where
  running : ∀ task ∈ p.running, I.Ongoing task.request task.rest task.turns
  ended : ∀ o ∈ p.ended, I.Over o.request o.turns o.result

theorem Upholds.put {I : TaskInvariant W} {p : Pool W} {service : Service}
    {before after : List (Task W)} {elapsed : Duration} {task : Task W} (hp : p.Upholds I)
    (hothers : ∀ other ∈ before ++ after, other ∈ p.running)
    (htask : I.Ongoing task.request task.rest task.turns) :
    (p.put service before after elapsed task).Upholds I := by
  unfold Pool.put
  split
  case h_1 result hproceed =>
    constructor
    case running => exact fun other hother ↦ hp.running other (hothers other hother)
    case ended =>
      intro o ho
      obtain hold | hnew := List.mem_append.1 ho
      · exact hp.ended o hold
      · obtain rfl := List.mem_singleton.1 hnew
        exact I.finish htask hproceed
  case h_2 rest hproceed =>
    constructor
    case running =>
      intro other hother
      obtain rfl | hold := List.mem_cons.1 (List.perm_middle.mem_iff.1 hother)
      · exact I.proceed htask hproceed
      · exact hp.running other (hothers other hold)
    case ended => exact hp.ended

theorem Upholds.step {I : TaskInvariant W} {p p' : Pool W} (hp : p.Upholds I) (hstep : Step p p') :
    p'.Upholds I := by
  cases hstep with
  | start r elapsed =>
    apply hp.put (by simp)
    exact I.start r
  | @advance before after task elapsed rest service hrunning hadvances =>
    have hothers : ∀ other ∈ before ++ after, other ∈ p.running := by
      intro other hother
      rw [hrunning]
      exact List.perm_middle.mem_iff.2 (List.mem_cons_of_mem task hother)
    apply hp.put hothers
    exact I.advance (hp.running task (by simp [hrunning])) hadvances
  | @drop before after task hrunning =>
    constructor
    case running =>
      intro other hother
      apply hp.running
      rw [hrunning]
      exact List.perm_middle.mem_iff.2 (List.mem_cons_of_mem task hother)
    case ended =>
      intro o ho
      obtain hold | hnew := List.mem_append.1 ho
      · exact hp.ended o hold
      · obtain rfl := List.mem_singleton.1 hnew
        exact I.drop p.service (hp.running task (by simp [hrunning]))

theorem Reachable.upholds (I : TaskInvariant W) {p : Pool W} (hreach : Reachable s₀ p) :
    p.Upholds I := by
  induction hreach with
  | start => exact ⟨by simp [idle], by simp [idle]⟩
  | step _ hstep ih => exact ih.step hstep

end Pool

/-- The turns that a task has had lead to its end if those that follow do. -/
def ending (W : Workload) : TaskInvariant W where
  Ongoing r a turns := ∀ later x, a.Ends later x → (W.serve r).Ends (turns ++ later) x
  Over r turns result := ∀ x, result = some x → (W.serve r).Ends turns x
  start _ _ _ hends := hends
  advance hongoing hadvances later x hrest := by
    rw [List.append_assoc]
    exact hongoing _ x (.of_advances hadvances hrest)
  proceed hongoing hproceed later x hrest := hongoing later x (.of_proceed hproceed hrest)
  finish := by
    rintro r a turns elapsed result hongoing hproceed _ ⟨⟩
    have hends := hongoing [] result (Activity.ends_of_proceed hproceed)
    rwa [List.append_nil] at hends
  drop _ _ x hresult := absurd hresult (Option.some_ne_none x).symm

/-- A task that has ended with a result has come to it by its turns. -/
theorem Pool.Reachable.ends {p : Pool W} (hreach : Reachable s₀ p) {o : Outcome W} (ho : o ∈ p.ended)
    {result : W.Result o.request} (hresult : o.result = some result) :
    (W.serve o.request).Ends o.turns result :=
  (hreach.upholds (ending W)).ended o ho result hresult

end Turnstile
