import Turnstile.Proofs.Tasks.Ending
import Turnstile.Proofs.Tasks.Tracing
import Turnstile.Workload.Bank

/-!
# Conflicts met and conflicts told

A call of a transaction can be refused since another writer is in the way.  The transaction then fails:
with that conflict, or with what has gone wrong when it was rolled back.  So an action that succeeds has
met no conflict, and one that fails with a conflict has met one.  An account creation tells by its
outcome whether it has met one, as long as it comes to an outcome at all.
-/

namespace Turnstile

/-- The result is a refusal for a conflict. -/
def conflicts {α : Type} : Except Error α → Bool
  | .error e => e.isContention
  | .ok _ => false

/-- The call is answered by a refusal for a conflict. -/
def Store.refuses : (c : Store.interface.Call) → Store.interface.Answer c → Bool
  | .begin, result => @conflicts Store.Ticket result
  | .exec _ _, .settled result => conflicts result
  | .exec _ _, .queued _ => false
  | .resume _ _, result => @conflicts Nat result
  | .query _ _, result => @conflicts (List Store.Row) result
  | .commit _, result => @conflicts Unit result
  | .rollback _, result => @conflicts Unit result
  | .createSchema, .settled result => conflicts result
  | .createSchema, .queued _ => false
  | .resumeSchema _, result => @conflicts Unit result
  | .close, result => @conflicts Unit result

/-- A call on the store that is refused for a conflict. -/
def Exchange.refused : Exchange → Bool
  | ⟨.store c, a⟩ => Store.refuses c a
  | _ => false

/-- One of the calls was refused for a conflict. -/
def conflicted (d : List Exchange) : Bool :=
  d.any Exchange.refused

theorem conflicted_concat (d : List Exchange) (x : Exchange) :
    conflicted (d ++ [x]) = (conflicted d || x.refused) := by
  simp [conflicted]

namespace Database

open Store (Ticket)

variable {α β : Type} {d : List Exchange}

/-- A success means that no conflict has been met, and a conflict that one has. -/
structure Concedes (Q : α → Prop) (result : Except Error α) (d : List Exchange) : Prop where
  ok : ∀ a, result = .ok a → Q a ∧ conflicted d = false
  conflict : result = .error .contention → conflicted d = true

theorem concedes_answer (hd : conflicted d = false) {x : Exchange} {result : Except Error α}
    (hx : x.refused = conflicts result) : Concedes (fun _ ↦ True) result (d ++ [x]) where
  ok := by
    rintro a rfl
    rw [conflicted_concat, hd, hx]
    exact ⟨trivial, rfl⟩
  conflict := by
    rintro rfl
    rw [conflicted_concat, hx]
    exact Bool.or_true _

/-- The action tells of the conflicts that it meets, and `Q` is true of its result. -/
def Candid (Q : α → Prop) (p : DbAction α) : Prop :=
  ∀ d, conflicted d = false → p.Meets conversing.onStore (fun _ ↦ True) (Concedes Q) d

theorem candid_pure {Q : α → Prop} {a : α} (hQ : Q a) : Candid Q (pure a) := by
  intro d hd
  constructor
  · rintro _ ⟨⟩
    exact ⟨hQ, hd⟩
  · simp

theorem candid_bind {P : α → Prop} {Q : β → Prop} {p : DbAction α} {f : α → DbAction β}
    (hp : Candid P p) (hf : ∀ a, P a → Candid Q (f a)) : Candid Q (p >>= f) := by
  intro d hd
  apply (hp d hd).andThen
  · intro a d' hconcedes
    obtain ⟨ha, hd'⟩ := hconcedes.ok a rfl
    exact hf a ha d' hd'
  · intro e d' hconcedes
    constructor
    · simp
    · rintro ⟨⟩
      exact hconcedes.conflict rfl

/-- An action of a single call. -/
theorem candid_ask {p : DbAction α} {c : Store.interface.Call}
    {f : Store.interface.Answer c → Except Error α}
    (hp : p.run = .call c fun answer ↦ .done (f answer))
    (hf : ∀ answer, Store.refuses c answer = conflicts (f answer)) : Candid (fun _ ↦ True) p := by
  intro d hd
  unfold Action.Meets
  rw [hp]
  refine ⟨trivial, trivial, ?_⟩
  rintro answer _ rfl
  exact concedes_answer hd (hf answer)

theorem candid_begin : Candid (fun _ ↦ True) begin :=
  candid_ask (c := .begin) (f := id) rfl fun _ ↦ rfl

theorem candid_query (t : Ticket) (q : Store.Query) : Candid (fun _ ↦ True) (query t q) :=
  candid_ask (c := .query t q) (f := id) rfl fun _ ↦ rfl

theorem candid_commit (t : Ticket) : Candid (fun _ ↦ True) (commit t) :=
  candid_ask (c := .commit t) (f := id) rfl fun _ ↦ rfl

theorem candid_exec (t : Ticket) (stmt : Store.Statement) : Candid (fun _ ↦ True) (exec t stmt) := by
  intro d hd
  refine ⟨trivial, trivial, ?_⟩
  rintro (result | t') _ rfl
  · exact concedes_answer hd rfl
  · refine ⟨trivial, trivial, ?_⟩
    rintro result _ rfl
    apply concedes_answer ?_ rfl
    rw [conflicted_concat, hd]
    rfl

/-- A rollback leaves it at what has been told, unless it fails itself. -/
theorem concedes_rollback {Q : α → Prop} {e : Error} (t : Ticket)
    (hconflict : e = .contention → conflicted d = true) :
    Action.Meets conversing.onStore (fun _ ↦ True) (Concedes Q)
      (do rollback t; throw e : DbAction α) d := by
  refine ⟨trivial, trivial, ?_⟩
  rintro (e' | _) _ rfl
  · constructor
    · simp
    · rintro ⟨⟩
      rw [conflicted_concat]
      exact Bool.or_true _
  · constructor
    · simp
    · rintro ⟨⟩
      rw [conflicted_concat, hconflict rfl]
      rfl

theorem candid_transact {Q : α → Prop} {body : Ticket → DbAction α}
    (hbody : ∀ t, Candid Q (body t)) : Candid Q (transact body) := by
  apply candid_bind candid_begin
  intro t _ d hd
  apply Action.Meets.bind
  apply Program.Meets.bind
  apply Program.Meets.imp (hbody t d hd)
  intro result d' hconcedes
  cases result with
  | ok a =>
    obtain ⟨ha, hd'⟩ := hconcedes.ok a rfl
    exact candid_bind (candid_commit t) (fun _ _ ↦ candid_pure ha) d' hd'
  | error e => exact concedes_rollback t fun he ↦ hconcedes.conflict (congrArg _ he)

end Database

/-! ## Account creation -/

namespace Workload.Bank

open Database (Candid candid_bind candid_pure)

theorem candid_insertAccounts (t : Store.Ticket) (balance : Int64) (accounts : List Int64) :
    Candid (fun _ ↦ True) (insertAccounts t balance accounts) := by
  induction accounts with
  | nil => exact candid_pure trivial
  | cons id rest ih => exact candid_bind (Database.candid_exec t _) fun _ _ ↦ ih

/-- No creation comes to a conflict as an outcome by itself. -/
theorem candid_createAccounts (t : Store.Ticket) (r : Opening) :
    Candid (· ≠ .contended) (createAccounts t r) := by
  apply candid_bind (Database.candid_query t .all)
  intro rows _
  by_cases hrows : rows.isEmpty
  · simp only [hrows, Bool.not_true, Bool.false_eq_true, if_false]
    cases r.balance? with
    | none => exact candid_pure (by simp)
    | some balance =>
      exact candid_bind (candid_insertAccounts t balance r.accounts) fun _ _ ↦ candid_pure (by simp)
  · simp only [hrows, Bool.not_false, if_true]
    exact candid_pure (by simp)

/-- An account creation that comes to an outcome tells by it whether it has met a conflict. -/
def TellsConflict (result : Except Error OpeningOutcome) (d : List Exchange) : Prop :=
  ∀ outcome, result = .ok outcome → (outcome = .contended ↔ conflicted d = true)

theorem tellsConflict_openAccounts (r : Opening) {d : List Exchange} (hd : conflicted d = false) :
    (openAccounts r).Meets conversing.onStore (fun _ ↦ True) TellsConflict d := by
  apply Program.Meets.bind
  apply Program.Meets.imp (Database.candid_transact (fun t ↦ candid_createAccounts t r) d hd)
  intro result d' hconcedes outcome houtcome
  cases result with
  | ok outcome' =>
    obtain ⟨hne, hd'⟩ := hconcedes.ok outcome' rfl
    obtain rfl : outcome' = outcome := Except.ok.inj houtcome
    exact iff_of_false hne (by simp [hd'])
  | error e =>
    cases e with
    | contention =>
      obtain rfl : .contended = outcome := Except.ok.inj houtcome
      exact iff_of_true rfl (hconcedes.conflict rfl)
    | _ => simp [contendedAsOutcome] at houtcome

end Workload.Bank

end Turnstile
