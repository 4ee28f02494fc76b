import Turnstile.Proofs.Tasks.Reliance

/-!
# Statements that succeed

In whatever state a store is, a statement succeeds only if it can be applied to some rows, so its
values fit their columns.  Tasks can rely on that and on nothing else when nothing is known of the
store: it may be closed or without a table, and others may do with it what they like.
-/

namespace Turnstile

open Store (Statement Ticket)

/-- Whatever comes first, where any call can be made, the result is that of what follows. -/
theorem Action.meets_then {I : Interface} {α β σ : Type} {P : Protocol I σ}
    (hpermits : ∀ k c, P.Permits k c) {Q : Except Error β → Prop} {f : α → Action I β}
    (herror : ∀ e, Q (.error e))
    (hf : ∀ a k, (f a).Meets P (fun _ ↦ True) (fun result _ ↦ Q result) k) (p : Action I α) (k : σ) :
    (p >>= f).Meets P (fun _ ↦ True) (fun result _ ↦ Q result) k := by
  have hany : p.Meets P (fun _ ↦ True) (fun _ _ ↦ True) k :=
    p.run.meets_any hpermits (fun _ ↦ trivial) (fun _ _ ↦ trivial) k
  exact hany.andThen (fun a k _ ↦ hf a k) fun e _ _ ↦ herror e

namespace Store

/-- There are rows to which the statement can be applied. -/
def Statement.Applicable (stmt : Statement) : Prop :=
  ∃ rows result, stmt.apply rows = .ok result

/-- What an answer tells of the statement that it is for. -/
def EvaluatingFollows : (c : interface.Call) → interface.Answer c → Prop
  | .exec _ stmt, .settled (.ok _) => stmt.Applicable
  | .resume _ stmt, .ok _ => stmt.Applicable
  | _, _ => True

/-- The protocol of a store in any state. -/
def evaluating : Protocol interface Unit where
  Permits _ _ := True
  Follows _ c a _ := EvaluatingFollows c a

variable {s : Store} {t : Ticket} {tx : Transaction} {stmt : Statement} {n : Nat}

theorem applicable_of_applyStatement (hok : (s.applyStatement t tx stmt).1 = .ok n) :
    stmt.Applicable := by
  unfold applyStatement at hok
  split at hok
  case h_1 => simp at hok
  case h_2 rows _ =>
    cases happly : stmt.apply rows with
    | error f => simp [happly] at hok
    | ok result => exact ⟨rows, result, happly⟩

theorem applicable_of_execWithLock (hok : (s.execWithLock t tx stmt).1 = .ok n) :
    stmt.Applicable := by
  unfold execWithLock at hok
  split at hok
  case isTrue => exact applicable_of_applyStatement hok
  case isFalse => simp at hok

theorem applicable_of_exec (hok : (s.exec t stmt).1 = .settled (.ok n)) : stmt.Applicable := by
  unfold exec at hok
  split at hok
  case isTrue => simp at hok
  case isFalse =>
    cases htx : s.transaction? t with
    | none => simp [htx] at hok
    | some tx =>
      simp only [htx] at hok
      split at hok
      case isTrue => simp at hok
      case isFalse =>
        cases hholder : s.lock.holder with
        | none =>
          simp only [hholder] at hok
          exact applicable_of_execWithLock (Attempt.settled.inj hok)
        | some holder =>
          simp only [hholder] at hok
          split at hok
          case isTrue => exact applicable_of_applyStatement (Attempt.settled.inj hok)
          case isFalse => split at hok <;> simp at hok

theorem applicable_of_resume (hok : (s.resume t stmt).1 = .ok n) : stmt.Applicable := by
  unfold resume at hok
  split at hok
  case h_1 => simp at hok
  case h_2 =>
    split at hok
    case isTrue => exact applicable_of_execWithLock hok
    case isFalse => simp at hok

/-- Every store answers as the protocol says. -/
theorem evaluatingFollows_answer (c : interface.Call) (s : Store) :
    EvaluatingFollows c (Store.answer c s).1 := by
  cases c with
  | exec t stmt =>
    cases hanswer : (Store.answer (.exec t stmt) s).1 with
    | settled result =>
      cases result with
      | ok n => exact applicable_of_exec hanswer
      | error e => trivial
    | queued t' => trivial
  | resume t stmt =>
    cases hanswer : (Store.answer (.resume t stmt) s).1 with
    | ok n => exact applicable_of_resume hanswer
    | error e => trivial
  | _ => trivial

end Store

/-! ## Results of actions -/

namespace Database

variable {α β : Type} {t : Ticket}

/-- Whatever the state of the store, `Q` is true of the result of the action. -/
def Gives (Q : Except Error α → Prop) (p : DbAction α) : Prop :=
  p.Meets Store.evaluating (fun _ ↦ True) (fun result _ ↦ Q result) ()

theorem gives_pure {Q : Except Error α → Prop} {a : α} (hQ : Q (.ok a)) :
    Gives Q (pure a) := hQ

theorem gives_throw {Q : Except Error α → Prop} {e : Error} (hQ : Q (.error e)) :
    Gives Q (throw e) := hQ

theorem gives_then {Q : Except Error β → Prop} {f : α → DbAction β} (herror : ∀ e, Q (.error e))
    (hf : ∀ a, Gives Q (f a)) (p : DbAction α) : Gives Q (p >>= f) :=
  Action.meets_then (fun _ _ ↦ trivial) herror (fun a _ ↦ hf a) p ()

theorem gives_exec {Q : Except Error Nat → Prop} {stmt : Statement} (herror : ∀ e, Q (.error e))
    (hok : stmt.Applicable → ∀ n, Q (.ok n)) : Gives Q (exec t stmt) := by
  refine ⟨trivial, trivial, ?_⟩
  rintro (⟨e | n⟩ | t') _ hfollows
  · exact herror e
  · exact hok hfollows n
  · refine ⟨trivial, trivial, ?_⟩
    rintro (e | n) _ hfollows
    · exact herror e
    · exact hok hfollows n

/-- A transaction has the result of its body, or fails. -/
theorem gives_transact {Q : Except Error α → Prop} {body : Ticket → DbAction α}
    (herror : ∀ e, Q (.error e)) (hbody : ∀ t, Gives Q (body t)) : Gives Q (transact body) := by
  apply gives_then herror
  intro t
  apply Action.Meets.bind
  apply Program.Meets.bind
  apply Program.Meets.imp (hbody t)
  intro result _ hresult
  cases result with
  | ok a => exact gives_then herror (fun _ ↦ gives_pure hresult) (commit t)
  | error e => exact gives_then herror (fun _ ↦ gives_throw hresult) (rollback t)

end Database

/-! ## Tasks -/

namespace Service

variable {α β : Type}

/-- The protocol of a service in any state. -/
def evaluating : Protocol interface Unit where
  Permits _ _ := True
  Follows _ c a _ :=
    match c, a with
    | .store c, a => Store.EvaluatingFollows c a
    | _, _ => True

/-- Whatever the state of the service, `Q` is true of the result of the action. -/
def Gives (Q : Except Error α → Prop) (p : ServiceAction α) : Prop :=
  p.Meets evaluating (fun _ ↦ True) (fun result _ ↦ Q result) ()

theorem gives_pure {Q : Except Error α → Prop} {a : α} (hQ : Q (.ok a)) :
    Gives Q (pure a) := hQ

theorem gives_throw {Q : Except Error α → Prop} {e : Error} (hQ : Q (.error e)) :
    Gives Q (throw e) := hQ

theorem gives_then {Q : Except Error β → Prop} {f : α → ServiceAction β}
    (herror : ∀ e, Q (.error e)) (hf : ∀ a, Gives Q (f a)) (p : ServiceAction α) :
    Gives Q (p >>= f) :=
  Action.meets_then (fun _ _ ↦ trivial) herror (fun a _ ↦ hf a) p ()

theorem gives_onStore {Q : Except Error α → Prop} {p : Database.DbAction α}
    (hp : Database.Gives Q p) : Gives Q (onStore p) := by
  apply Action.Meets.interpret ?_ hp
  intro c s _ _
  exact ⟨trivial, trivial, fun _ _ hfollows ↦ hfollows⟩

end Service

/-- Tasks rely on how statements are evaluated. -/
def evaluatingReliance (W : Workload) (Result : (r : W.Request) → W.Result r → Prop) :
    Reliance W Unit where
  protocol := Service.evaluating
  knows _ := ()
  Safe _ := True
  Result := Result

theorem evaluatingReliance_holds {W : Workload} {Result : (r : W.Request) → W.Result r → Prop}
    (hserve : ∀ r, (W.serve r).Relies Service.evaluating (Result r) ()) (service : Service) :
    (evaluatingReliance W Result).Holds service where
  start := trivial
  serve := hserve
  answer p _ c _ _ _ _ _ := by
    refine ⟨?_, trivial⟩
    cases c with
    | store c => exact Store.evaluatingFollows_answer c p.service.store
    | _ => trivial
  release _ _ _ := trivial

end Turnstile
