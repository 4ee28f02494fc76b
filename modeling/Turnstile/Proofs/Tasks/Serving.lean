import Turnstile.Proofs.Tasks.Reliance

/-!
# An open store with a table

While a store is open and has its table, a transaction that begins on it finds the table and comes to
its end.  Only statements and queries can fail in it: either cannot be evaluated, or a statement meets
a conflict.  Tickets are given in order, so the transactions that have begun since the table was there
are those with a late ticket.
-/

namespace Turnstile

open Store (History Query Row Statement Ticket Transaction)

namespace Store

/-- The store is open and has its table, and so has every transaction with a ticket from `k` on. -/
structure Serves (k : Ticket) (s : Store) : Prop where
  opened : s.closed = false
  table : s.table.isSome
  next : k ≤ s.nextTicket
  transactions : ∀ t tx, k ≤ t → s.transaction? t = some tx → tx.table.isSome

/-- Why a statement is refused in an open transaction that has a table. -/
def Refusal (stmt : Statement) (e : Error) : Prop :=
  e = .contention ∨ ∃ rows f, stmt.apply rows = .error f ∧ e = f.error

/-- The calls of a transaction with a ticket from `k` on. -/
def ServingPermits (k : Ticket) : interface.Call → Prop
  | .begin => True
  | .exec t _ | .resume t _ | .query t _ | .commit t | .rollback t => k ≤ t
  | .createSchema | .resumeSchema _ | .close => False

/-- What the answers to such calls are like. -/
def ServingFollows (k : Ticket) : (c : interface.Call) → interface.Answer c → Prop
  | .begin, result => ∃ t, k ≤ t ∧ result = .ok t
  | .exec _ stmt, .settled (.error e) => Refusal stmt e
  | .resume _ stmt, .error e => Refusal stmt e
  | .query _ q, .error e => ∃ rows f, q.select rows = .error f ∧ e = f.error
  | .commit _, result => result = .ok ()
  | .rollback _, result => result = .ok ()
  | _, _ => True

/-- The protocol of an open store with a table. -/
def serving (k : Ticket) : Protocol interface Unit where
  Permits _ := ServingPermits k
  Follows _ c a _ := ServingFollows k c a

namespace Serves

variable {k t : Ticket} {s s' : Store} {tx : Transaction} {stmt : Statement}

theorem found (hs : s.Serves k) (hk : k ≤ t) (htx : s.transaction? t = some tx) :
    tx.table ≠ none :=
  Option.isSome_iff_ne_none.1 (hs.transactions t tx hk htx)

theorem congr (hs : s.Serves k) (hclosed : s'.closed = s.closed) (htable : s'.table = s.table)
    (hnext : s'.nextTicket = s.nextTicket) (htransactions : s'.transactions = s.transactions) :
    s'.Serves k where
  opened := hclosed.trans hs.opened
  table := htable ▸ hs.table
  next := hnext ▸ hs.next
  transactions t tx hk htx := by
    unfold Store.transaction? at htx
    rw [htransactions] at htx
    exact hs.transactions t tx hk htx

theorem endTransaction (hs : s.Serves k) (t : Ticket) : (s.endTransaction t).Serves k where
  opened := hs.opened
  table := hs.table
  next := hs.next
  transactions t' tx hk htx := by
    rw [transaction?_endTransaction] at htx
    split at htx
    case isTrue => simp at htx
    case isFalse => exact hs.transactions t' tx hk htx

theorem written (hs : s.Serves k) (rows : List Row) : (s.written t tx rows).Serves k where
  opened := hs.opened
  table := hs.table
  next := hs.next
  transactions t' tx' hk htx := by
    unfold Store.written at htx
    rw [transaction?_setTransaction] at htx
    split at htx
    case isTrue =>
      obtain ⟨_, _, rfl⟩ := Option.map_eq_some_iff.1 htx
      rfl
    case isFalse => exact hs.transactions t' tx' hk htx

theorem hold (hs : s.Serves k) (t : Ticket) : (s.hold t).Serves k :=
  hs.congr rfl rfl rfl rfl

theorem begin (hs : s.Serves k) : s.begin.1 = .ok s.nextTicket ∧ s.begin.2.Serves k := by
  rw [begin_of_open hs.opened]
  refine ⟨rfl, hs.opened, hs.table, Nat.le_succ_of_le hs.next, ?_⟩
  intro t tx hk htx
  simp only [Store.transaction?, List.lookup_append] at htx
  obtain hold | ⟨_, hnew⟩ := Option.or_eq_some_iff.1 htx
  · exact hs.transactions t tx hk hold
  · rw [List.lookup_cons] at hnew
    split at hnew
    · obtain rfl := Option.some.inj hnew
      exact hs.table
    · simp at hnew

theorem exec (hs : s.Serves k) (hk : k ≤ t) (htx : s.transaction? t = some tx)
    (hfree : s.lock.holder = none → s.lock.waiting = []) (stmt : Statement) :
    ServingFollows k (.exec t stmt) (s.exec t stmt).1 ∧ (s.exec t stmt).2.Serves k := by
  have hexecutes := executes htx hfree stmt
  generalize s.exec t stmt = result at hexecutes ⊢
  obtain ⟨answer, after⟩ := result
  cases hexecutes with
  | closed hclosed => exact absurd (hs.opened.symm.trans hclosed) Bool.false_ne_true
  | missing htable => exact absurd htable (hs.found hk htx)
  | contended => exact ⟨.inl rfl, hs⟩
  | faulty _ _ happly => exact ⟨.inr ⟨_, _, happly, rfl⟩, hs.hold t⟩
  | done => exact ⟨trivial, (hs.hold t).written _⟩
  | queued => exact ⟨trivial, hs.congr rfl rfl rfl rfl⟩

theorem resume (hs : s.Serves k) (hk : k ≤ t) (htx : s.transaction? t = some tx)
    (stmt : Statement) :
    ServingFollows k (.resume t stmt) (s.resume t stmt).1 ∧ (s.resume t stmt).2.Serves k := by
  have hresumes := resumes htx stmt
  generalize s.resume t stmt = result at hresumes ⊢
  obtain ⟨answer, after⟩ := result
  cases hresumes with
  | contended => exact ⟨.inl rfl, hs.congr rfl rfl rfl rfl⟩
  | missing _ _ htable => exact absurd htable (hs.found hk htx)
  | faulty _ _ _ happly => exact ⟨.inr ⟨_, _, happly, rfl⟩, hs⟩
  | done => exact ⟨trivial, hs.written _⟩

theorem query (hs : s.Serves k) (hk : k ≤ t) (htx : s.transaction? t = some tx) (q : Query) :
    ServingFollows k (.query t q) (s.query t q).1 ∧ (s.query t q).2.Serves k := by
  have hanswers := answers htx q
  rw [query_snd]
  generalize (s.query t q).1 = answer at hanswers ⊢
  cases hanswers with
  | closed hclosed => exact absurd (hs.opened.symm.trans hclosed) Bool.false_ne_true
  | missing htable => exact absurd htable (hs.found hk htx)
  | faulty _ hselect => exact ⟨⟨_, _, hselect, rfl⟩, hs⟩
  | found => exact ⟨trivial, hs⟩

theorem commit (hs : s.Serves k) (hk : k ≤ t) (htx : s.transaction? t = some tx) :
    (s.commit t).1 = .ok () ∧ (s.commit t).2.Serves k := by
  cases hdirty : tx.dirty with
  | false =>
    rw [commit_of_clean hs.opened htx hdirty]
    exact ⟨rfl, hs.endTransaction t⟩
  | true =>
    rw [commit_of_dirty hs.opened htx hdirty]
    have hended := hs.endTransaction t
    exact ⟨rfl, hended.opened, hs.transactions t tx hk htx, hended.next, hended.transactions⟩

/-- Calls of transactions that have begun since are answered as the protocol says. -/
theorem answer {h : History} (hs : h.store.Serves k) (c : h.Consistent) {call : interface.Call}
    (hallows : h.Allows call) (hpermits : ServingPermits k call) :
    ServingFollows k call (Store.answer call h.store).1 ∧
      (Store.answer call h.store).2.Serves k := by
  cases call with
  | begin =>
    obtain ⟨hresult, hafter⟩ := hs.begin
    exact ⟨⟨h.store.nextTicket, hs.next, hresult⟩, hafter⟩
  | exec t stmt =>
    obtain ⟨σ, huse, _⟩ := hallows
    exact hs.exec hpermits (c.tracked.transaction? huse) c.guarded.free stmt
  | resume t stmt =>
    obtain ⟨σ, huse, _⟩ := hallows
    exact hs.resume hpermits (c.tracked.transaction? huse) stmt
  | query t q =>
    obtain ⟨σ, huse, _⟩ := hallows
    exact hs.query hpermits (c.tracked.transaction? huse) q
  | commit t =>
    obtain ⟨σ, huse, _⟩ := hallows
    exact hs.commit hpermits (c.tracked.transaction? huse)
  | rollback t => exact ⟨rfl, hs.endTransaction t⟩
  | createSchema | resumeSchema | close => exact hpermits.elim

end Serves

end Store

/-! ## Results of actions -/

namespace Database

variable {α β : Type} {k t : Ticket}

/-- On an open store with a table, the action uses only tickets from `k` on, and `Q` is true of its
result. -/
def Yields (k : Ticket) (Q : Except Error α → Prop) (p : DbAction α) : Prop :=
  p.Meets (Store.serving k) (fun _ ↦ True) (fun result _ ↦ Q result) ()

namespace Yields

theorem pure {Q : Except Error α → Prop} {a : α} (hQ : Q (.ok a)) :
    Yields k Q (Pure.pure a : DbAction α) := hQ

theorem bind {Q : Except Error β → Prop} {p : DbAction α} {f : α → DbAction β}
    (hp : Yields k (fun | .ok a => Yields k Q (f a) | .error e => Q (.error e)) p) :
    Yields k Q (p >>= f) :=
  Action.Meets.andThen hp (fun _ _ hresult ↦ hresult) fun _ _ hresult ↦ hresult

theorem begin {Q : Except Error Ticket → Prop} (hQ : ∀ t, k ≤ t → Q (.ok t)) :
    Yields k Q begin := by
  refine ⟨trivial, trivial, ?_⟩
  rintro _ _ ⟨t, hk, rfl⟩
  exact hQ t hk

theorem exec {Q : Except Error Nat → Prop} {stmt : Statement} (hk : k ≤ t)
    (hrefused : ∀ e, Store.Refusal stmt e → Q (.error e)) (hdone : ∀ n, Q (.ok n)) :
    Yields k Q (exec t stmt) := by
  refine ⟨trivial, hk, ?_⟩
  rintro (⟨e | n⟩ | t') _ hfollows
  · exact hrefused e hfollows
  · exact hdone n
  · refine ⟨trivial, hk, ?_⟩
    rintro (e | n) _ hfollows
    · exact hrefused e hfollows
    · exact hdone n

theorem query {Q : Except Error (List Row) → Prop} {q : Query} (hk : k ≤ t)
    (hrefused : ∀ rows f, q.select rows = .error f → Q (.error f.error))
    (hfound : ∀ rows, Q (.ok rows)) : Yields k Q (query t q) := by
  refine ⟨trivial, hk, ?_⟩
  rintro (e | rows) _ hfollows
  · obtain ⟨rows, f, hselect, rfl⟩ := hfollows
    exact hrefused rows f hselect
  · exact hfound rows

/-- A transaction ends with the result of its body. -/
theorem transact {Q : Except Error α → Prop} {body : Ticket → DbAction α}
    (hbody : ∀ t, k ≤ t → Yields k Q (body t)) : Yields k Q (transact body) := by
  apply bind
  apply begin
  intro t hk
  apply Action.Meets.bind
  apply Program.Meets.bind
  apply Program.Meets.imp (hbody t hk)
  intro result s hresult
  cases result with
  | ok a =>
    refine ⟨trivial, hk, ?_⟩
    rintro _ _ rfl
    exact hresult
  | error e =>
    refine ⟨trivial, hk, ?_⟩
    rintro _ _ rfl
    exact hresult

end Yields

end Database

/-! ## Tasks -/

namespace Service

/-- The protocol of a service whose store is open and has its table. -/
def serving (k : Ticket) : Protocol interface Unit where
  Permits _
    | .store c => Store.ServingPermits k c
    | _ => True
  Follows _ c a _ :=
    match c, a with
    | .store c, a => Store.ServingFollows k c a
    | _, _ => True

theorem meets_of_yields {α : Type} {k : Ticket} {Q : Except Error α → Prop}
    {p : Database.DbAction α} (hp : Database.Yields k Q p) :
    (onStore p).run.Meets (serving k) (fun _ ↦ True) (fun result _ ↦ Q result) () := by
  apply Action.Meets.interpret ?_ hp
  intro c s _ hpermits
  exact ⟨trivial, hpermits, fun _ _ hfollows ↦ hfollows⟩

end Service

/-- Tasks rely on an open store with a table. -/
def servingReliance (W : Workload) (k : Ticket) (Result : (r : W.Request) → W.Result r → Prop) :
    Reliance W Unit where
  protocol := Service.serving k
  knows _ := ()
  Safe s := s.store.Serves k
  Result := Result

/-- On a store that is open and has its table, tasks that keep to a contract can rely on that: their
results are what they make of the answers of such a store. -/
theorem servingReliance_holds {W : Workload} {C : Contract W} (hhonored : C.Honored)
    {h : History} (c : h.Consistent) {service : Service} (hstore : h.store = service.store)
    (hopen : h.store.closed = false) (htable : h.store.table.isSome)
    {Result : (r : W.Request) → W.Result r → Prop}
    (hserve : ∀ r, (W.serve r).Relies (Service.serving h.store.nextTicket) (Result r) ()) :
    (servingReliance W h.store.nextTicket Result).Holds service where
  start := by
    change service.store.Serves h.store.nextTicket
    rw [← hstore]
    refine ⟨hopen, htable, Nat.le_refl _, ?_⟩
    intro t tx hk htx
    rw [c.tracked.transactions, c.tracked.unused t hk] at htx
    simp at htx
  serve := hserve
  answer p task call hreach htask hcall hsafe hpermits := by
    cases call with
    | store call =>
      obtain ⟨h', c', hstore', hallows⟩ := hreach.allows hhonored c hstore htask hcall
      have hserves : p.service.store.Serves h.store.nextTicket := hsafe
      rw [← hstore'] at hserves
      have hanswer := hserves.answer c' hallows hpermits
      rw [hstore'] at hanswer
      exact hanswer
    | _ => exact ⟨trivial, hsafe⟩
  release s t hsafe := by
    cases t with
    | none => exact hsafe
    | some t => exact Store.Serves.endTransaction hsafe t

end Turnstile
