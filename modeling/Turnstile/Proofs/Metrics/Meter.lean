import Turnstile.Proofs.Metrics.Registry
import Turnstile.Proofs.Tasks.Ending

/-!
# Counting the calls of tasks

A number that can be read off the registry changes only by calls that count something, and each such
call adds what is known from the call alone.  So what a task has added is the sum over its calls, and
what has been read off the registry is the sum over all tasks, in whatever order they have had their
turns.
-/

namespace Turnstile

/-- The call counts a request, or a conflict that requests have met. -/
def Service.Call.counts : Service.interface.Call → Bool
  | .record _ _ _ => true
  | .increment .contention => true
  | .increment .maskedContention => true
  | _ => false

namespace Metrics

/-- A number that can be read off a registry. -/
inductive Meter where
  | requests (name : String)
  | latencies (name : String)
  | errors (name : String)
  | failuresByKind
  | contention
  | maskedContention

namespace Meter

def read (r : Registry) : Meter → Nat
  | requests name => (r.endpoint name).requests
  | latencies name => (r.endpoint name).latency.count
  | errors name => (r.endpoint name).errors
  | failuresByKind => r.failuresByKind
  | contention => r.contention
  | maskedContention => r.maskedContention

/-- What a call adds. -/
def gain : Meter → Service.interface.Call → Nat
  | requests name, .record name' _ _ => (decide (name' = name)).toNat
  | latencies name, .record name' _ _ => (decide (name' = name)).toNat
  | errors name, .record name' _ error => (decide (name' = name) && error.isSome).toNat
  | failuresByKind, .record _ _ error => error.isSome.toNat
  | contention, .record _ _ error => (decide (error = some .contention)).toNat
  | contention, .increment .contention => 1
  | maskedContention, .increment .maskedContention => 1
  | _, _ => 0

/-- How long a request has taken adds to no meter. -/
theorem gain_record (m : Meter) (name : String) (elapsed : Duration) (error : Option Error) :
    m.gain (.record name elapsed error) = m.gain (.record name .zero error) := by
  cases m <;> rfl

/-- What calls add together. -/
def total (m : Meter) (calls : List Service.interface.Call) : Nat :=
  (calls.map m.gain).sum

theorem gain_of_not_counts (m : Meter) {c : Service.interface.Call}
    (hc : Service.Call.counts c = false) :
    m.gain c = 0 := by
  cases c with
  | record => simp [Service.Call.counts] at hc
  | increment counter =>
    cases counter with
    | contention | maskedContention => simp [Service.Call.counts] at hc
    | schemaRetries => cases m <;> rfl
  | store | cluster | metrics | uptime | pause => cases m <;> rfl

theorem total_singleton (m : Meter) (c : Service.interface.Call) : m.total [c] = m.gain c := by
  simp [total]

theorem total_concat (m : Meter) (calls : List Service.interface.Call) (c : Service.interface.Call) :
    m.total (calls ++ [c]) = m.total calls + m.gain c := by
  simp [total]

/-- Only the calls that count something add anything. -/
theorem total_filter (m : Meter) (calls : List Service.interface.Call) :
    m.total (calls.filter Service.Call.counts) = m.total calls := by
  induction calls with
  | nil => rfl
  | cons c rest ih =>
    cases hc : Service.Call.counts c with
    | true => simpa [total, hc] using ih
    | false => simpa [total, hc, m.gain_of_not_counts hc] using ih

theorem read_record {r : Registry} (hr : r.Sound) (m : Meter) (name : String) (elapsed : Duration)
    (error : Option Error) :
    m.read (r.record name elapsed error) = m.read r + m.gain (.record name elapsed error) := by
  cases m with
  | requests other | latencies other =>
    simp only [read, gain, hr.endpoint_record]
    split
    case isTrue heq =>
      rw [heq, decide_eq_true rfl]
      rfl
    case isFalse hne =>
      rw [decide_eq_false (Ne.symm hne)]
      rfl
  | errors other =>
    simp only [read, gain, hr.endpoint_record]
    split
    case isTrue heq =>
      rw [heq, decide_eq_true rfl]
      cases error <;> rfl
    case isFalse hne =>
      rw [decide_eq_false (Ne.symm hne)]
      rfl
  | failuresByKind => exact Registry.failuresByKind_record name elapsed error
  | contention =>
    cases error with
    | none => rfl
    | some e => cases e <;> rfl
  | maskedContention => cases error <;> rfl

/-- After a call a meter reads as much more as the call adds. -/
theorem read_answer {s : Service} (hs : s.metrics.Sound) (m : Meter) (c : Service.interface.Call) :
    m.read (Service.answer c s).2.metrics = m.read s.metrics + m.gain c := by
  cases c with
  | record name elapsed error => exact read_record hs m name elapsed error
  | increment counter => cases counter <;> cases m <;> rfl
  | store | cluster | metrics | uptime | pause => cases m <;> rfl

end Meter

theorem Registry.Sound.answer {s : Service} (hs : s.metrics.Sound) (c : Service.interface.Call) :
    (Service.answer c s).2.metrics.Sound := by
  cases c with
  | record name elapsed error => exact Registry.Sound.record hs name elapsed error
  | increment counter => exact Registry.Sound.increment hs counter
  | store | cluster | metrics | uptime | pause => exact hs

end Metrics

open Metrics (Meter Registry)

@[simp]
theorem Service.metrics_release (s : Service) (t : Option Store.Ticket) :
    (s.release t).metrics = s.metrics := by
  cases t <;> rfl

/-! ## What a task adds -/

/-- The turns of a task make these calls; at the other ones it only gives up a ticket. -/
inductive Makes : List (Service × Service) → List Service.interface.Call → Prop where
  | nil : Makes [] []
  | call {turns : List (Service × Service)} {calls : List Service.interface.Call} (s : Service)
      (c : Service.interface.Call) (hrest : Makes turns calls) :
      Makes ((s, (Service.answer c s).2) :: turns) (c :: calls)
  | release {turns : List (Service × Service)} {calls : List Service.interface.Call} (s : Service)
      (t : Option Store.Ticket) (hrest : Makes turns calls) :
      Makes ((s, s.release t) :: turns) calls

theorem Makes.append {turns later : List (Service × Service)} {calls more : List Service.interface.Call}
    (hturns : Makes turns calls) (hlater : Makes later more) :
    Makes (turns ++ later) (calls ++ more) := by
  induction hturns with
  | nil => exact hlater
  | call s c _ ih => exact .call s c ih
  | release s t _ ih => exact .release s t ih

theorem Program.Goes.makes {α : Type} {p q : Program Service.interface α}
    {turns : List (Service × Service)} (hgoes : p.Goes turns q) :
    Makes turns ((p.dialogue (turns.map Prod.fst)).map Sigma.fst) := by
  induction hgoes with
  | stand p => cases p <;> exact .nil
  | call s _ ih => exact .call s _ ih

namespace Metrics.Meter

/-- What turns have added. -/
def spent (m : Meter) (turns : List (Service × Service)) : Nat :=
  (turns.map fun turn ↦ m.read turn.2.metrics - m.read turn.1.metrics).sum

theorem spent_of_makes (m : Meter) {turns : List (Service × Service)}
    {calls : List Service.interface.Call} (hmakes : Makes turns calls) (hsound : ∀ turn ∈ turns, turn.1.metrics.Sound) :
    m.spent turns = m.total calls := by
  unfold spent total
  induction hmakes with
  | nil => rfl
  | call s c _ ih =>
    rw [List.map_cons, List.sum_cons, List.map_cons, List.sum_cons,
      ih fun turn hturn ↦ hsound turn (List.mem_cons_of_mem _ hturn),
      read_answer (hsound _ List.mem_cons_self), Nat.add_sub_cancel_left]
  | release s t _ ih =>
    rw [List.map_cons, List.sum_cons, ih fun turn hturn ↦ hsound turn (List.mem_cons_of_mem _ hturn),
      Service.metrics_release, Nat.sub_self, Nat.zero_add]

/-- A meter to which none of the calls adds anything reads the same after each turn. -/
theorem read_turn_of_makes {m : Meter} {turns : List (Service × Service)}
    {calls : List Service.interface.Call} (hmakes : Makes turns calls)
    (hsound : ∀ turn ∈ turns, turn.1.metrics.Sound) (hgain : m.total calls = 0) :
    ∀ turn ∈ turns, m.read turn.2.metrics = m.read turn.1.metrics := by
  unfold total at hgain
  induction hmakes with
  | nil => simp
  | call s c _ ih =>
    rw [List.map_cons, List.sum_cons] at hgain
    refine List.forall_mem_cons.2 ⟨?_, ih (fun turn hturn ↦ hsound turn (.tail _ hturn)) (by omega)⟩
    rw [read_answer (hsound _ List.mem_cons_self)]
    omega
  | release s t _ ih =>
    refine List.forall_mem_cons.2 ⟨?_, ih (fun turn hturn ↦ hsound turn (.tail _ hturn)) hgain⟩
    rw [Service.metrics_release]

end Metrics.Meter

/-! ## Programs that count nothing -/

/-- The calls of a dialogue that count something. -/
def counted (d : List Exchange) : List Service.interface.Call :=
  (d.map Sigma.fst).filter Service.Call.counts

theorem counted_concat (d : List Exchange) (x : Exchange) :
    counted (d ++ [x]) = counted d ++ if Service.Call.counts x.1 then [x.1] else [] := by
  cases hx : Service.Call.counts x.1 <;> simp [counted, hx]

/-- The protocol of a task that counts nothing. -/
def uncounting : Protocol Service.interface Unit where
  Permits _ c := Service.Call.counts c = false
  Follows _ _ _ _ := True

/-- A program that counts nothing adds nothing to what has been counted. -/
theorem Program.meets_of_uncounting {α : Type} {p : Program Service.interface α}
    (hp : p.Meets uncounting (fun _ ↦ True) (fun _ _ ↦ True) ()) {d : List Exchange}
    (hd : counted d = []) :
    p.Meets conversing (fun d ↦ counted d = []) (fun _ d ↦ counted d = []) d := by
  induction p generalizing d with
  | done a => exact hd
  | call c next ih =>
    obtain ⟨_, hcounts, hnext⟩ := hp
    refine ⟨hd, trivial, ?_⟩
    rintro a _ rfl
    apply ih a (hnext a () trivial)
    have hc : Service.Call.counts c = false := hcounts
    simp [counted_concat, hd, hc]

namespace Service

variable {α β : Type}

/-- The action counts nothing. -/
def Uncounting (p : ServiceAction α) : Prop :=
  p.Meets uncounting (fun _ ↦ True) (fun _ _ ↦ True) ()

theorem uncounting_pure (a : α) : Uncounting (pure a) := trivial

theorem uncounting_throw (e : Error) : Uncounting (throw e : ServiceAction α) := trivial

theorem uncounting_bind {p : ServiceAction α} {f : α → ServiceAction β} (hp : Uncounting p)
    (hf : ∀ a, Uncounting (f a)) : Uncounting (p >>= f) :=
  Action.Meets.andThen hp (fun a _ _ ↦ hf a) fun _ _ _ ↦ trivial

/-- Where no call counts anything, no program does. -/
theorem uncounting_interpret {I : Interface} {handle : (c : I.Call) → Program interface (I.Answer c)}
    (hhandle : ∀ c, (handle c).Meets uncounting (fun _ ↦ True) (fun _ _ ↦ True) ())
    (p : Action I α) : Uncounting (p.interpret handle) := by
  let any : Protocol I Unit := ⟨fun _ _ ↦ True, fun _ _ _ _ ↦ True⟩
  have hany : p.Meets any (fun _ ↦ True) (fun _ _ ↦ True) () :=
    p.run.meets_any (fun _ _ ↦ trivial) (fun _ ↦ trivial) (fun _ _ ↦ trivial) ()
  exact Action.Meets.interpret (fun c _ _ _ ↦ hhandle c) hany

theorem uncounting_onStore (p : Database.DbAction α) : Uncounting (onStore p) := by
  apply uncounting_interpret
  exact fun c ↦ ⟨trivial, rfl, fun _ _ _ ↦ trivial⟩

theorem uncounting_onCluster (p : Engine.ClusterAction α) : Uncounting (onCluster p) := by
  apply uncounting_interpret
  exact fun c ↦ ⟨trivial, rfl, fun _ _ _ ↦ trivial⟩

end Service

/-! ## What all tasks add -/

section Pool

variable {W : Workload} {s₀ : Service} {p : Pool W}

/-- The registry is sound whenever a task has its turn. -/
theorem Pool.Reachable.sound (hsound : s₀.metrics.Sound) (hreach : p.Reachable s₀) :
    p.service.metrics.Sound ∧ ∀ turns ∈ p.turns, ∀ turn ∈ turns, turn.1.metrics.Sound := by
  induction hreach with
  | start => exact ⟨hsound, by simp [idle, turns]⟩
  | @step p p' hreach hstep ih =>
    obtain ⟨hservice, hturns⟩ := ih
    obtain ⟨hsame, hperm⟩ | ⟨task, _, rest, hbefore, hafter, hmoves⟩ := hstep.turns
    · refine ⟨hsame ▸ hservice, fun turns hmem ↦ ?_⟩
      obtain rfl | hold := List.mem_cons.1 (hperm.mem_iff.1 hmem)
      · simp
      · exact hturns turns hold
    · constructor
      · obtain ⟨c, _, hanswer⟩ | ⟨t, hrelease⟩ := hmoves
        · exact hanswer ▸ hservice.answer c
        · rw [hrelease, Service.metrics_release]
          exact hservice
      · intro turns hmem
        obtain rfl | hother := List.mem_cons.1 (hafter.mem_iff.1 hmem)
        · have htask := hturns task.turns (hbefore.mem_iff.2 List.mem_cons_self)
          exact List.forall_mem_append.2 ⟨htask, List.forall_mem_singleton.2 hservice⟩
        · exact hturns turns (hbefore.mem_iff.2 (List.mem_cons_of_mem _ hother))

/-- A meter reads what all tasks have added to what it read at first. -/
theorem Pool.Reachable.read (m : Meter) (hsound : s₀.metrics.Sound) (hreach : p.Reachable s₀) :
    m.read p.service.metrics = m.read s₀.metrics + (p.turns.map m.spent).sum := by
  induction hreach with
  | start => simp [idle, turns]
  | @step p p' hreach hstep ih =>
    have hle : m.read p.service.metrics ≤ m.read p'.service.metrics := by
      obtain ⟨hsame, _⟩ | ⟨_, _, _, _, _, ⟨c, _, hanswer⟩ | ⟨t, hrelease⟩⟩ := hstep.turns
      · rw [hsame]
      · rw [hanswer, Meter.read_answer (hreach.sound hsound).1]
        exact Nat.le_add_right _ _
      · rw [hrelease, Service.metrics_release]
    obtain ⟨hsame, hperm⟩ | ⟨task, _, rest, hbefore, hafter, _⟩ := hstep.turns
    · rw [hsame, ih, (hperm.map m.spent).sum_nat]
      simp [Meter.spent]
    · rw [(hbefore.map m.spent).sum_nat] at ih
      rw [(hafter.map m.spent).sum_nat]
      simp only [List.map_cons, List.sum_cons, Meter.spent, List.map_append, List.sum_append,
        List.map_nil, List.sum_nil] at ih ⊢
      omega

/-! ## Tasks that count nothing -/

/-- The activity counts nothing. -/
def Activity.Uncounting {R : Type} (a : Activity Service.interface R) : Prop :=
  a.Relies uncounting (fun _ ↦ True) ()

namespace Activity.Uncounting

variable {R : Type} {a rest : Activity Service.interface R} {s s' : Service} {elapsed : Duration}

theorem advance (ha : a.Uncounting) (hadvances : a.Advances s elapsed rest s') : rest.Uncounting :=
  relies_iff_shows.2 ((relies_iff_shows.1 ha).advance hadvances fun _ _ _ ↦ trivial)

theorem proceed (ha : a.Uncounting) (hproceed : a.proceed elapsed = .inr rest) :
    rest.Uncounting := by
  obtain ⟨r, hends, _⟩ | ⟨rest', hgoes, hrest⟩ := (relies_iff_shows.1 ha).proceed elapsed
  · simp [hends] at hproceed
  · rw [hgoes] at hproceed
    exact relies_iff_shows.2 (Sum.inr.inj hproceed ▸ hrest)

theorem read_turn (ha : a.Uncounting) (hadvances : a.Advances s elapsed rest s') (m : Meter) :
    m.read s'.metrics = m.read s.metrics := by
  obtain ⟨c, hcall, rfl⟩ | ⟨t, rfl⟩ := hadvances.service
  · have hcounts : Service.Call.counts c = false := ha.permits hcall
    cases c with
    | record => simp [Service.Call.counts] at hcounts
    | increment counter =>
      cases counter with
      | contention | maskedContention => simp [Service.Call.counts] at hcounts
      | schemaRetries => cases m <;> rfl
    | store | cluster | metrics | uptime | pause => cases m <;> rfl
  · rw [Service.metrics_release]

end Activity.Uncounting

/-- Tasks of some requests count nothing, and add nothing at any turn. -/
def untold {Quiet : W.Request → Prop} (hquiet : ∀ r, Quiet r → (W.serve r).Uncounting) :
    TaskInvariant W where
  Ongoing r a turns := Quiet r → a.Uncounting ∧ ∀ m : Meter, m.spent turns = 0
  Over r turns _ := Quiet r → ∀ m : Meter, m.spent turns = 0
  start r hr := ⟨hquiet r hr, fun _ ↦ rfl⟩
  advance := by
    intro r a turns s elapsed rest s' hongoing hadvances hr
    obtain ⟨ha, hspent⟩ := hongoing hr
    refine ⟨ha.advance hadvances, fun m ↦ ?_⟩
    have hturn := ha.read_turn hadvances m
    have hturns := hspent m
    simp only [Meter.spent, List.map_append, List.sum_append] at hturns ⊢
    simp [hturns, hturn]
  proceed := by
    intro r a turns elapsed rest hongoing hproceed hr
    exact ⟨(hongoing hr).1.proceed hproceed, (hongoing hr).2⟩
  finish hongoing _ hr := (hongoing hr).2
  drop := by
    intro r a turns s hongoing hr m
    have hturns := (hongoing hr).2 m
    simp only [Meter.spent, List.map_append, List.sum_append] at hturns ⊢
    simp [hturns]

end Pool

end Turnstile
