import Turnstile.Database
import Turnstile.Proofs.Store.Preservation
import Turnstile.Proofs.Store.Update

/-!
# A transaction on its own

A transaction that begins while nobody has the lock, with nobody else making a call until its end,
goes just as its statements and queries go on the rows: it neither waits nor meets a conflict.  The
store that it leaves is the one it began on, with its rows for the committed ones if it has written
and succeeded.  Apart from the ticket that it has used up, a failure leaves no trace.
-/

namespace Turnstile

namespace Store

/-- An open store with these rows.  Nobody has its lock or waits for it, and its next ticket is
new. -/
structure AtRest (s : Store) (rows : List Row) : Prop where
  opened : s.closed = false
  table : s.table = some rows
  lock : s.lock = .free
  fresh : ∀ entry ∈ s.transactions, entry.1 ≠ s.nextTicket

/-- The store while the transaction that has begun on it sees `view`. -/
def alone (s : Store) (view : List Row) (dirty holds : Bool) : Store :=
  { s with
    lock := ⟨if holds then some s.nextTicket else none, []⟩
    transactions := s.transactions ++ [(s.nextTicket, ⟨s.version, some view, dirty⟩)]
    nextTicket := s.nextTicket + 1 }

/-- The store after a transaction that has left no trace. -/
def spent (s : Store) : Store :=
  { s with nextTicket := s.nextTicket + 1 }

/-- The store after the commit of a transaction that sees `view`. -/
def settled (s : Store) (view : List Row) (dirty : Bool) : Store :=
  if dirty then { s.spent with table := some view, version := s.version + 1 } else s.spent

theorem History.Reachable.fresh {timeout : Nat} {h : History} (hreach : Reachable timeout h) :
    ∀ entry ∈ h.store.transactions, entry.1 ≠ h.store.nextTicket := by
  have c := hreach.consistent
  have hlookup := c.tracked.transactions h.store.nextTicket
  rw [c.tracked.unused _ (Nat.le_refl _), Option.bind_none, transaction?,
    List.lookup_eq_none_iff] at hlookup
  intro entry hentry heq
  exact absurd (hlookup entry hentry) (by simp [heq])

theorem History.Reachable.atRest {timeout : Nat} {h : History} (hreach : Reachable timeout h)
    {rows : List Row} (hopen : h.store.closed = false) (htable : h.store.table = some rows)
    (hfree : h.store.lock.holder = none) : h.store.AtRest rows where
  opened := hopen
  table := htable
  lock := by
    have hwaiting := hreach.consistent.guarded.free hfree
    calc h.store.lock
      _ = ⟨h.store.lock.holder, h.store.lock.waiting⟩ := rfl
      _ = .free := by rw [hfree, hwaiting, Lock.free]
  fresh := hreach.fresh

/-- A transaction under a new ticket is found. -/
theorem lookup_fresh {s : Store} (hfresh : ∀ entry ∈ s.transactions, entry.1 ≠ s.nextTicket)
    (tx : Transaction) :
    (s.transactions ++ [(s.nextTicket, tx)]).lookup s.nextTicket = some tx := by
  have hnone : s.transactions.lookup s.nextTicket = none := by
    rw [List.lookup_eq_none_iff]
    exact fun entry hentry ↦ bne_iff_ne.2 (hfresh entry hentry).symm
  rw [List.lookup_append, hnone, Option.none_or, List.lookup_cons_self]

/-! ## Its calls -/

section Calls

variable {s : Store} {rows view : List Row} (hs : s.AtRest rows)

include hs

theorem AtRest.begin : s.begin = (.ok s.nextTicket, s.alone rows false false) := by
  rw [begin_of_open hs.opened]
  unfold alone
  simp only [hs.table, hs.lock]
  rfl

theorem AtRest.opened_alone (dirty holds : Bool) : (s.alone view dirty holds).closed = false :=
  hs.opened

theorem AtRest.transaction?_alone (dirty holds : Bool) :
    (s.alone view dirty holds).transaction? s.nextTicket = some ⟨s.version, some view, dirty⟩ :=
  lookup_fresh hs.fresh _

theorem AtRest.setTransaction_alone (dirty holds : Bool) (after : List Row) :
    (s.alone view dirty holds).setTransaction s.nextTicket ⟨s.version, some after, true⟩ =
      s.alone after true holds := by
  unfold setTransaction alone
  have hothers : s.transactions.map (fun entry ↦ if entry.1 = s.nextTicket then
      (s.nextTicket, ⟨s.version, some after, true⟩) else entry) = s.transactions := by
    conv_rhs => rw [← List.map_id s.transactions]
    exact List.map_congr_left fun entry hentry ↦ if_neg (hs.fresh entry hentry)
  simp only [List.map_append, hothers, List.map_cons, List.map_nil, if_true]

/-- A statement goes as it goes on the rows, and leaves the lock with its transaction. -/
theorem AtRest.exec_alone (view : List Row) (dirty holds : Bool) (stmt : Statement) :
    (s.alone view dirty holds).exec s.nextTicket stmt =
      match stmt.apply view with
      | .ok (after, n) => (.settled (.ok n), s.alone after true true)
      | .error f => (.settled (.error f.error), s.alone view dirty true) := by
  have henters : (s.alone view dirty holds).Enters s.nextTicket ⟨s.version, some view, dirty⟩ := by
    cases holds with
    | true => exact .inl rfl
    | false => exact .inr ⟨rfl, rfl⟩
  have hhold : (s.alone view dirty holds).hold s.nextTicket = s.alone view dirty true := rfl
  rw [exec_of_enters (hs.opened_alone dirty holds) (hs.transaction?_alone dirty holds) rfl henters,
    hhold]
  cases happly : stmt.apply view with
  | error f => rw [applyStatement_of_error rfl happly]
  | ok result =>
    rw [applyStatement_of_ok rfl happly, written, hs.setTransaction_alone]

/-- A query goes as it goes on the rows, and changes nothing. -/
theorem AtRest.query_alone (view : List Row) (dirty holds : Bool) (q : Query) :
    (s.alone view dirty holds).query s.nextTicket q =
      match q.select view with
      | .ok selected => (.ok selected, s.alone view dirty holds)
      | .error f => (.error f.error, s.alone view dirty holds) := by
  unfold query
  simp only [hs.opened_alone, Bool.false_eq_true, if_false, hs.transaction?_alone]
  cases q.select view <;> rfl

theorem AtRest.endTransaction_alone (dirty holds : Bool) :
    (s.alone view dirty holds).endTransaction s.nextTicket = s.spent := by
  have hothers : s.transactions.filter (·.1 ≠ s.nextTicket) = s.transactions :=
    List.filter_eq_self.2 fun entry hentry ↦ decide_eq_true (hs.fresh entry hentry)
  have hlock : Lock.leave ⟨if holds then some s.nextTicket else none, []⟩ s.nextTicket = s.lock := by
    rw [hs.lock]
    cases holds <;> simp [Lock.leave, Lock.free]
  unfold endTransaction leaveLock alone spent
  simp only [hlock, List.filter_append, hothers]
  simp

theorem AtRest.commit_alone (dirty holds : Bool) :
    (s.alone view dirty holds).commit s.nextTicket = (.ok (), s.settled view dirty) := by
  unfold commit
  simp only [hs.opened_alone, Bool.false_eq_true, if_false, hs.transaction?_alone,
    hs.endTransaction_alone]
  rfl

theorem AtRest.table_settled {dirty : Bool} (hclean : dirty = false → view = rows) :
    (s.settled view dirty).table = some view := by
  cases dirty with
  | false => exact hs.table.trans (congrArg some (hclean rfl).symm)
  | true => rfl

omit hs in
theorem lock_settled (dirty : Bool) : (s.settled view dirty).lock = s.lock := by
  cases dirty <;> rfl

omit hs in
theorem closed_settled (dirty : Bool) : (s.settled view dirty).closed = s.closed := by
  cases dirty <;> rfl

end Calls

/-! ## Tables that there can be -/

namespace History

/-- The insertion of a row under a ticket. -/
def insertion (t : Ticket) (row : Row) : Move :=
  .call (.exec t (.insert (row.key.elim .null .integer) (.integer row.value)))

/-- The history in which a store with a schema has been given some rows. -/
def stocked (rows : List Row) : Option History :=
  (start 0).run <| [.call .createSchema, .call .begin] ++ rows.map (insertion 2) ++
    [.call (.commit 2)]

variable {s : Store} {rows view : List Row} {h : History}

/-- Rows that a transaction on its own inserts are committed behind those that it sees. -/
theorem run_insertions (hs : s.AtRest rows) (given : List Row) {dirty holds : Bool}
    (hstore : h.store = s.alone view dirty holds) (hidle : h.Idle s.nextTicket)
    (hclean : dirty = false → view = rows) :
    ∃ h', h.run (given.map (insertion s.nextTicket) ++ [.call (.commit s.nextTicket)]) = some h' ∧
      h'.store.closed = false ∧ h'.store.table = some (view ++ given) ∧
      h'.store.lock.holder = none := by
  induction given generalizing h view dirty holds with
  | nil =>
    have hcommit : (Store.answer (.commit s.nextTicket) h.store).2 = s.settled view dirty := by
      rw [hstore]
      exact congrArg Prod.snd (hs.commit_alone dirty holds)
    have hrun : h.run [.call (.commit s.nextTicket)] = some (h.call (.commit s.nextTicket)) :=
      if_pos hidle
    have hend : (h.call (.commit s.nextTicket)).store = s.settled view dirty := hcommit
    refine ⟨_, hrun, ?_, ?_, ?_⟩
    · rw [hend, closed_settled, hs.opened]
    · rw [hend, hs.table_settled hclean, List.append_nil]
    · rw [hend, lock_settled, hs.lock, Lock.free]
  | cons row rest ih =>
    obtain ⟨σ, huse, hwaiting⟩ := hidle
    let stmt : Statement := .insert (row.key.elim .null .integer) (.integer row.value)
    have happly : stmt.apply view = .ok (view ++ [row], 1) := by
      obtain ⟨key, value⟩ := row
      cases key <;> rfl
    have hanswer : Store.answer (.exec s.nextTicket stmt) h.store =
        (.settled (.ok 1), s.alone (view ++ [row]) true true) := by
      have hexec := hs.exec_alone view dirty holds stmt
      rw [happly] at hexec
      rw [hstore]
      exact hexec
    let next := h.call (.exec s.nextTicket stmt)
    have hnext : next.store = s.alone (view ++ [row]) true true := congrArg Prod.snd hanswer
    have huses : next.uses = (h.change s.nextTicket (·.add stmt)).uses := by
      unfold next call
      rw [hanswer]
      rfl
    rw [change_transaction huse] at huses
    have hidle' : next.Idle s.nextTicket :=
      ⟨σ.add stmt, (congrFun huses _).trans (Function.update_self ..), rfl⟩
    obtain ⟨h', hrun, hclosed, htable, hlock⟩ :=
      ih hnext hidle' fun hdirty ↦ absurd hdirty.symm Bool.false_ne_true
    refine ⟨h', ?_, hclosed, ?_, hlock⟩
    · exact (if_pos ⟨σ, huse, hwaiting⟩).trans hrun
    · rw [htable, List.append_assoc, List.singleton_append]

/-- Any rows can be the committed ones of a store in use. -/
theorem exists_stocked (rows : List Row) :
    ∃ h, stocked rows = some h ∧ h.Reachable 0 ∧ h.store.AtRest rows := by
  have hs : (withTable 0).store.AtRest [] := ⟨rfl, rfl, rfl, nofun⟩
  let begun := (withTable 0).call .begin
  have hidle : begun.Idle 2 := by decide
  obtain ⟨h, hrun, hclosed, htable, hlock⟩ := run_insertions (h := begun) hs rows
    (congrArg Prod.snd hs.begin) hidle fun _ ↦ rfl
  have hstocked : stocked rows = some h := hrun
  have hreach := Reachable.start.run hstocked
  exact ⟨h, hstocked, hreach, hreach.atRest hclosed htable hlock⟩

end History

end Store

/-- What follows a success goes on where it ended; a failure ends there. -/
theorem Action.run_bind {I : Interface} {α β σ : Type} (answer : (c : I.Call) → σ → I.Answer c × σ)
    (p : Action I α) (f : α → Action I β) (s : σ) :
    (p >>= f).run.run answer s =
      match p.run.run answer s with
      | (.ok a, s) => (f a).run.run answer s
      | (.error e, s) => (.error e, s) := by
  have hbind : (p >>= f).run = p.run.bind (ExceptT.bindCont f) := rfl
  rw [hbind, Program.run_bind]
  obtain ⟨result | result, s⟩ := p.run.run answer s <;> rfl

namespace Database

open Store (AtRest Query Row Statement Ticket)

/-- A statement that the store settles at once. -/
theorem run_exec_of_settled {s s' : Store} {t : Ticket} {stmt : Statement}
    {result : Except Error Nat} (hexec : s.exec t stmt = (.settled result, s')) :
    (exec t stmt).run.run Store.answer s = (result, s') := by
  have hanswer : Store.answer (.exec t stmt) s = (.settled result, s') := hexec
  unfold exec
  simp only [ExceptT.run, ExceptT.mk, Program.run]
  rw [hanswer]
  rfl

/-- A statement whose wait comes to its end at once. -/
theorem run_exec_of_queued {s s' : Store} {t t' : Ticket} {stmt : Statement}
    (hexec : s.exec t stmt = (.queued t', s')) :
    (exec t stmt).run.run Store.answer s = s'.resume t stmt := by
  have hanswer : Store.answer (.exec t stmt) s = (.queued t', s') := hexec
  unfold exec
  simp only [ExceptT.run, ExceptT.mk, Program.run]
  rw [hanswer]
  rfl

/-- A transaction is its body between its begin and its end. -/
theorem run_transact_of_begin {α : Type} {s s₁ s₂ : Store} {t : Ticket} {body : Ticket → DbAction α}
    {result : Except Error α} (hbegin : s.begin = (.ok t, s₁))
    (hbody : (body t).run.run Store.answer s₁ = (result, s₂)) :
    (transact body).run.run Store.answer s = (complete t result).run.run Store.answer s₂ := by
  have hbegun : begin.run.run Store.answer s = (.ok t, s₁) := hbegin
  have hlift : (ExceptT.lift (body t).run : DbAction (Except Error α)).run.run Store.answer s₁ =
      (.ok result, s₂) := by
    have hbind : (ExceptT.lift (body t).run : DbAction (Except Error α)).run =
        (body t).run.bind fun result ↦ .done (.ok result) := rfl
    rw [hbind, Program.run_bind, hbody]
    rfl
  rw [transact, Action.run_bind, hbegun]
  simp only
  rw [Action.run_bind, hlift]

theorem run_complete_error {α : Type} (s : Store) (t : Ticket) (e : Error) :
    (complete t (.error e) : DbAction α).run.run Store.answer s = (.error e, s.endTransaction t) :=
  rfl

/-! ## Its actions -/

section Actions

variable {α : Type} {s : Store} {rows view : List Row} (hs : s.AtRest rows)

include hs

theorem run_exec (dirty holds : Bool) (stmt : Statement) :
    (exec s.nextTicket stmt).run.run Store.answer (s.alone view dirty holds) =
      match stmt.apply view with
      | .ok (after, n) => (.ok n, s.alone after true true)
      | .error f => (.error f.error, s.alone view dirty true) := by
  have hexec := hs.exec_alone view dirty holds stmt
  cases happly : stmt.apply view with
  | error f =>
    rw [happly] at hexec
    exact run_exec_of_settled hexec
  | ok result =>
    rw [happly] at hexec
    exact run_exec_of_settled hexec

theorem run_query (dirty holds : Bool) (q : Query) :
    (query s.nextTicket q).run.run Store.answer (s.alone view dirty holds) =
      match q.select view with
      | .ok selected => (.ok selected, s.alone view dirty holds)
      | .error f => (.error f.error, s.alone view dirty holds) :=
  hs.query_alone view dirty holds q

/-- A transaction on its own is committed after a success of its body, and leaves no trace of a
failure. -/
theorem run_transact {body : Ticket → DbAction α} {result : Except Error α} {dirty holds : Bool}
    (hbody : (body s.nextTicket).run.run Store.answer (s.alone rows false false) =
      (result, s.alone view dirty holds)) :
    (transact body).run.run Store.answer s =
      match result with
      | .ok a => (.ok a, s.settled view dirty)
      | .error e => (.error e, s.spent) := by
  rw [run_transact_of_begin hs.begin hbody]
  cases result with
  | ok a =>
    have hcommit : (commit s.nextTicket).run.run Store.answer (s.alone view dirty holds) =
        (.ok (), s.settled view dirty) := hs.commit_alone dirty holds
    rw [complete, Action.run_bind, hcommit]
    rfl
  | error e => rw [run_complete_error, hs.endTransaction_alone]

end Actions

end Database

end Turnstile
