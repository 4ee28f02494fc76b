import Turnstile.Proofs.Store.History
import Turnstile.Proofs.Tasks.Pool
import Turnstile.Proofs.Tasks.Protocol

/-!
# Where a task stands

A task knows the answers to its own calls and nothing else.  They tell which transactions it has
committed, whether it may have changed the cluster, and what it holds: at most one ticket at a time,
for a transaction or for a schema creation that waits.  Calls on the cluster, and all others besides
those on the store, are made only while it holds nothing, so a task that is dropped gives up all that
it holds.

A contract says what the tasks of a workload have done at every call and at their ends.
-/

namespace Turnstile

open Store (Ticket Session Use Statement Row)

/-- What a task has done. -/
structure Deeds where
  /-- How many transactions had been committed when it began. -/
  earliest : Nat
  /-- The transactions that it has committed, in order. -/
  committed : List Session
  /-- How many of its calls may have changed the cluster. -/
  changes : Nat

/-- What a task has done and what it holds. -/
structure Standing where
  deeds : Deeds
  use : Option (Ticket × Use)

namespace Deeds

/-- What a task that has just begun has done. -/
def start (earliest : Nat) : Deeds := ⟨earliest, [], 0⟩

/-- The deeds after another commit. -/
def commit (d : Deeds) (σ : Session) : Deeds :=
  { d with committed := d.committed ++ [σ] }

theorem committed_commit {d : Deeds} (hnone : d.committed = []) (σ : Session) :
    (d.commit σ).committed = [σ] := by
  rw [commit, hnone]
  rfl

/-- The deeds after a call on the cluster. -/
def change (d : Deeds) (changed : Bool) : Deeds :=
  { d with changes := d.changes + changed.toNat }

end Deeds

/-- Whether a call with its answer may have changed the cluster. -/
def Cluster.changes : (c : Cluster.interface.Call) → Cluster.interface.Answer c → Bool
  | .leaderId, _ | .leader, _ | .members, _ | .isEmpty, _ => false
  | .setRole _ _, .error _ | .remove _, .error _ => false
  | .setRole _ _, .ok _ | .remove _, .ok _ => true
  | .add _ _, _ | .setLeader _, _ | .adjustRoles _ _, _ | .transferLeadership _, _ => true

namespace Standing

/-- The calls on the store that a task can make. -/
def Permits : Standing → Store.interface.Call → Prop
  | ⟨_, use⟩, .begin => use = none
  | ⟨_, use⟩, .exec t _ => ∃ σ, use = some (t, .transaction σ) ∧ σ.waiting = none
  | ⟨_, use⟩, .resume t stmt => ∃ σ, use = some (t, .transaction σ) ∧ σ.waiting = some stmt
  | ⟨_, use⟩, .query t _ => ∃ σ, use = some (t, .transaction σ) ∧ σ.waiting = none
  | ⟨_, use⟩, .commit t => ∃ σ, use = some (t, .transaction σ) ∧ σ.waiting = none
  | ⟨_, use⟩, .rollback t => ∃ σ, use = some (t, .transaction σ) ∧ σ.waiting = none
  | ⟨_, use⟩, .createSchema => use = none
  | ⟨_, use⟩, .resumeSchema t => use = some (t, .creation)
  | ⟨_, use⟩, .close => use = none

/-- What the answers of the store mean for a task. -/
inductive Follows : Standing → (c : Store.interface.Call) → Store.interface.Answer c → Standing → Prop
  | notBegun {d : Deeds} (e : Error) : Follows ⟨d, none⟩ .begin (.error e) ⟨d, none⟩
  | begun {d : Deeds} (t : Ticket) {σ : Session} (hbegun : d.earliest ≤ σ.begun)
      (hdone : σ.done = []) (hidle : σ.waiting = none) :
      Follows ⟨d, none⟩ .begin (.ok t) ⟨d, some (t, .transaction σ)⟩
  | refused {d : Deeds} {t : Ticket} {σ : Session} (stmt : Statement) (e : Error) :
      Follows ⟨d, some (t, .transaction σ)⟩ (.exec t stmt) (.settled (.error e))
        ⟨d, some (t, .transaction σ)⟩
  | done {d : Deeds} {t : Ticket} {σ : Session} {stmt : Statement} {rows after : List Row} {n : Nat}
      (hview : σ.view = some rows) (happly : stmt.apply rows = .ok (after, n)) :
      Follows ⟨d, some (t, .transaction σ)⟩ (.exec t stmt) (.settled (.ok n))
        ⟨d, some (t, .transaction (σ.add stmt))⟩
  | queued {d : Deeds} {t : Ticket} {σ : Session} (stmt : Statement) :
      Follows ⟨d, some (t, .transaction σ)⟩ (.exec t stmt) (.queued t)
        ⟨d, some (t, .transaction (σ.queue stmt))⟩
  | conceded {d : Deeds} {t : Ticket} {σ : Session} (stmt : Statement) (e : Error) :
      Follows ⟨d, some (t, .transaction σ)⟩ (.resume t stmt) (.error e)
        ⟨d, some (t, .transaction σ.rest)⟩
  | resumed {d : Deeds} {t : Ticket} {σ : Session} {stmt : Statement} {rows after : List Row}
      {n : Nat} (hview : σ.view = some rows) (happly : stmt.apply rows = .ok (after, n)) :
      Follows ⟨d, some (t, .transaction σ)⟩ (.resume t stmt) (.ok n)
        ⟨d, some (t, .transaction (σ.add stmt))⟩
  | notFound {s : Standing} (t : Ticket) (q : Store.Query) (e : Error) :
      Follows s (.query t q) (.error e) s
  | found {d : Deeds} {t : Ticket} {σ : Session} {q : Store.Query} {rows selected : List Row}
      (hview : σ.view = some rows) (hselect : q.select rows = .ok selected) :
      Follows ⟨d, some (t, .transaction σ)⟩ (.query t q) (.ok selected)
        ⟨d, some (t, .transaction σ)⟩
  | notCommitted {d : Deeds} {t : Ticket} {σ : Session} (e : Error) :
      Follows ⟨d, some (t, .transaction σ)⟩ (.commit t) (.error e) ⟨d, none⟩
  | committed {d : Deeds} {t : Ticket} {σ : Session} :
      Follows ⟨d, some (t, .transaction σ)⟩ (.commit t) (.ok ()) ⟨d.commit σ, none⟩
  | rolledBack {d : Deeds} {t : Ticket} {σ : Session} :
      Follows ⟨d, some (t, .transaction σ)⟩ (.rollback t) (.ok ()) ⟨d, none⟩
  | schemaSettled {d : Deeds} (result : Except Error Unit) :
      Follows ⟨d, none⟩ .createSchema (.settled result) ⟨d, none⟩
  | schemaQueued {d : Deeds} (t : Ticket) :
      Follows ⟨d, none⟩ .createSchema (.queued t) ⟨d, some (t, .creation)⟩
  | schemaResumed {d : Deeds} {t : Ticket} (result : Except Error Unit) :
      Follows ⟨d, some (t, .creation)⟩ (.resumeSchema t) result ⟨d, none⟩
  | closed {s : Standing} (result : Except Error Unit) : Follows s .close result s

end Standing

namespace Store

/-- The protocol of the store. -/
def protocol : Protocol interface Standing where
  Permits := Standing.Permits
  Follows := Standing.Follows

end Store

namespace Service

/-- The calls on the service that a task can make. -/
def Permits (s : Standing) : interface.Call → Prop
  | .store c => s.Permits c
  | _ => s.use = none

/-- What the answers of the service mean for a task. -/
def Follows (s : Standing) : (c : interface.Call) → interface.Answer c → Standing → Prop
  | .store c, a, s' => s.Follows c a s'
  | .cluster c, a, s' => s' = { s with deeds := s.deeds.change (Cluster.changes c a) }
  | .record _ _ _, _, s' => s' = s
  | .increment _, _, s' => s' = s
  | .metrics, _, s' => s' = s
  | .uptime, _, s' => s' = s
  | .pause _, _, s' => s' = s

/-- The protocol of the service. -/
def protocol : Protocol interface Standing where
  Permits := Permits
  Follows := Follows

end Service

/-! ## Contracts -/

namespace Activity

variable {R : Type}

/-- The program of a task keeps to the protocol, with `During` true of what it has done at every call;
at its end it holds nothing, and `After` is true of its result and what it has done. -/
def Finishes (During : Deeds → Prop) (After : R → Deeds → Prop)
    (p : Program Service.interface R) (s : Standing) : Prop :=
  p.Meets Service.protocol (fun s ↦ During s.deeds) (fun r s ↦ s.use = none ∧ After r s.deeds) s

/-- The activity keeps to the protocol.  Limited work ends holding nothing, and where it can be cut
off, what follows must go on from what has been done so far. -/
def Meets (During : Deeds → Prop) (After : R → Deeds → Prop) :
    Activity Service.interface R → Standing → Prop
  | run p, s => Finishes During After p s
  | limited _ work finish, s =>
    work.Meets Service.protocol
      (fun s ↦ During s.deeds ∧
        ∀ elapsed, Finishes During After (finish none elapsed) ⟨s.deeds, none⟩)
      (fun a s ↦ s.use = none ∧ ∀ elapsed, Finishes During After (finish (some a) elapsed) s) s
  | after _ next, s => During s.deeds ∧ s.use = none ∧ next.Meets During After s

section Map

variable {S : Type} {During : Deeds → Prop} {After : S → Deeds → Prop} {f : R → S} {s : Standing}

theorem Finishes.map {p : Program Service.interface R}
    (hp : Finishes During (fun r d ↦ After (f r) d) p s) :
    Finishes During After (p.bind fun r ↦ .done (f r)) s :=
  Program.Meets.bind hp

/-- A change of the result changes what is said of it. -/
theorem Meets.map {a : Activity Service.interface R}
    (ha : a.Meets During (fun r d ↦ After (f r) d) s) : (a.map f).Meets During After s := by
  induction a with
  | run p => exact Finishes.map ha
  | limited limit work finish =>
    apply Program.Meets.mono ha
    · exact fun s hs ↦ ⟨hs.1, fun elapsed ↦ (hs.2 elapsed).map⟩
    · exact fun answer s hs ↦ ⟨hs.1, fun elapsed ↦ (hs.2 elapsed).map⟩
  | after pause next ih => exact ⟨ha.1, ha.2.1, ih ha.2.2⟩

end Map

section Mono

variable {During During' : Deeds → Prop} {After After' : R → Deeds → Prop} {s : Standing}

theorem Finishes.mono {p : Program Service.interface R} (hp : Finishes During After p s)
    (hduring : ∀ d, During d → During' d) (hafter : ∀ r d, After r d → After' r d) :
    Finishes During' After' p s :=
  Program.Meets.mono hp (fun s ↦ hduring s.deeds) fun r s hend ↦ ⟨hend.1, hafter r s.deeds hend.2⟩

theorem Meets.mono {a : Activity Service.interface R} (ha : a.Meets During After s)
    (hduring : ∀ d, During d → During' d) (hafter : ∀ r d, After r d → After' r d) :
    a.Meets During' After' s := by
  induction a with
  | run p => exact Finishes.mono ha hduring hafter
  | limited limit work finish =>
    apply Program.Meets.mono ha
    · intro s hs
      exact ⟨hduring s.deeds hs.1, fun elapsed ↦ (hs.2 elapsed).mono hduring hafter⟩
    · exact fun answer s hs ↦ ⟨hs.1, fun elapsed ↦ (hs.2 elapsed).mono hduring hafter⟩
  | after pause next ih => exact ⟨hduring s.deeds ha.1, ha.2.1, ih ha.2.2⟩

end Mono

/-- An activity either goes on, at a place where it can be dropped, or has come to its end. -/
theorem Meets.proceed {During : Deeds → Prop} {After : R → Deeds → Prop}
    {a : Activity Service.interface R} {s : Standing} (ha : a.Meets During After s)
    (elapsed : Duration) :
    (∃ r, a.proceed elapsed = .inl r ∧ s.use = none ∧ After r s.deeds) ∨
      ∃ rest, a.proceed elapsed = .inr rest ∧ rest.Meets During After s ∧ During s.deeds := by
  cases a with
  | run p =>
    cases p with
    | done r => exact .inl ⟨r, rfl, ha.1, ha.2⟩
    | call c next => exact .inr ⟨_, rfl, ha, ha.1⟩
  | limited limit work finish =>
    cases work with
    | done a =>
      have hfinish : Finishes During After (finish (some a) elapsed) s := ha.2 elapsed
      cases hp : finish (some a) elapsed with
      | done r =>
        rw [hp] at hfinish
        refine .inl ⟨r, ?_, hfinish.1, hfinish.2⟩
        simp only [Activity.proceed, hp]
      | call c next =>
        rw [hp] at hfinish
        refine .inr ⟨run (.call c next), ?_, hfinish, hfinish.1⟩
        simp only [Activity.proceed, hp]
    | call c next => exact .inr ⟨_, rfl, ha, ha.1.1⟩
  | after pause next => exact .inr ⟨_, rfl, ha, ha.1⟩

end Activity

/-- What the tasks of a workload have done while they run, and when they have come to a result. -/
structure Contract (W : Workload) where
  During : W.Request → Deeds → Prop
  After : (r : W.Request) → W.Result r → Deeds → Prop

namespace Contract

variable {W : Workload}

/-- Every task of the workload keeps to the contract, whenever it begins. -/
def Honored (C : Contract W) : Prop :=
  ∀ r earliest, (W.serve r).Meets (C.During r) (C.After r) ⟨.start earliest, none⟩

/-- No task can be dropped once it has committed. -/
def Quiet (C : Contract W) : Prop :=
  ∀ r d, C.During r d → d.committed = []

/-- What is true of a task that has ended. -/
def Kept (C : Contract W) (o : Outcome W) (d : Deeds) : Prop :=
  match o.result with
  | some result => C.After o.request result d
  | none => C.During o.request d

end Contract

end Turnstile
