import Turnstile.Store.Basic

/-!
# What a statement can do

A statement is refused without a trace, or its transaction holds the lock afterwards; only then can
it have changed the rows of the transaction.  The relations below list the ways in which a statement
and the end of its wait can go, each with the reason for it.
-/

namespace Turnstile.Store

/-- The store with a ticket as the holder of the lock. -/
def hold (s : Store) (t : Ticket) : Store :=
  { s with lock := { s.lock with holder := some t } }

theorem hold_of_holder {s : Store} {t : Ticket} (hholder : s.lock.holder = some t) :
    s.hold t = s := by
  unfold hold
  rw [← hholder]

theorem request_eq_hold {s : Store} {t : Ticket} (hholder : s.lock.holder = none) :
    { s with lock := s.lock.request t } = s.hold t := by
  simp [hold, Lock.request, hholder]

/-- Taking a free lock and giving it up again changes nothing. -/
theorem leave_request {l : Lock} (t : Ticket) (hholder : l.holder = none)
    (hwaiting : l.waiting = []) : (l.request t).leave t = l := by
  obtain ⟨holder, waiting⟩ := l
  simp only at hholder hwaiting
  subst hholder hwaiting
  simp [Lock.request, Lock.leave]

theorem leaveLock_hold {s : Store} {t : Ticket} (hholder : s.lock.holder = none)
    (hwaiting : s.lock.waiting = []) : (s.hold t).leaveLock t = s := by
  rw [← request_eq_hold hholder]
  unfold leaveLock
  simp only [leave_request t hholder hwaiting]

theorem installTable_of_none {s : Store} {t : Ticket} (htable : s.table = none) :
    s.installTable t = { s.leaveLock t with table := some [], version := s.version + 1 } := by
  simp [installTable, leaveLock, htable]

theorem installTable_of_some {s : Store} {t : Ticket} {rows : List Row}
    (htable : s.table = some rows) : s.installTable t = s.leaveLock t := by
  simp [installTable, leaveLock, htable]

theorem table_installTable {s : Store} (t : Ticket) {rows : List Row}
    (htable : s.table = some rows) : (s.installTable t).table = some rows := by
  rw [installTable_of_some htable]
  exact htable

theorem rows_installTable (s : Store) (t : Ticket) : (s.installTable t).rows = s.rows := by
  cases htable : s.table with
  | none =>
    rw [installTable_of_none htable, rows, rows, htable]
    rfl
  | some rows =>
    rw [installTable_of_some htable]
    rfl

/-- The transaction holds the lock, or takes it while nobody has it and nothing has been written
since it began. -/
def Enters (s : Store) (t : Ticket) (tx : Transaction) : Prop :=
  s.lock.holder = some t ∨ s.lock.holder = none ∧ s.version = tx.version

/-- The store after a statement has given a transaction these rows. -/
def written (s : Store) (t : Ticket) (tx : Transaction) (rows : List Row) : Store :=
  s.setTransaction t { tx with table := some rows, dirty := true }

/-- How a statement can go in an open transaction. -/
inductive Executes (s : Store) (t : Ticket) (tx : Transaction) (stmt : Statement) :
    Attempt Nat → Store → Prop where
  | closed (hclosed : s.closed = true) :
      Executes s t tx stmt (.settled (.error Fault.closed.error)) s
  | missing (htable : tx.table = none) :
      Executes s t tx stmt (.settled (.error Fault.missingTable.error)) s
  | contended (hother : s.lock.holder ≠ some t)
      (hreason : s.lock.holder ≠ none ∧ s.busyTimeout = 0 ∨
        s.lock.holder = none ∧ s.version ≠ tx.version) :
      Executes s t tx stmt (.settled (.error .contention)) s
  | faulty {rows : List Row} {f : Fault} (henters : s.Enters t tx) (hrows : tx.table = some rows)
      (happly : stmt.apply rows = .error f) :
      Executes s t tx stmt (.settled (.error f.error)) (s.hold t)
  | done {rows after : List Row} {n : Nat} (henters : s.Enters t tx)
      (hrows : tx.table = some rows) (happly : stmt.apply rows = .ok (after, n)) :
      Executes s t tx stmt (.settled (.ok n)) ((s.hold t).written t tx after)
  | queued {holder : Ticket} (hholder : s.lock.holder = some holder) (hother : holder ≠ t) :
      Executes s t tx stmt (.queued t) { s with lock := s.lock.request t }

/-- How the wait of a statement can end in an open transaction. -/
inductive Resumes (s : Store) (t : Ticket) (tx : Transaction) (stmt : Statement) :
    Except Error Nat → Store → Prop where
  | contended (hreason : s.lock.holder ≠ some t ∨ s.version ≠ tx.version) :
      Resumes s t tx stmt (.error .contention) (s.leaveLock t)
  | missing (hholder : s.lock.holder = some t) (hversion : s.version = tx.version)
      (htable : tx.table = none) :
      Resumes s t tx stmt (.error Fault.missingTable.error) s
  | faulty {rows : List Row} {f : Fault} (hholder : s.lock.holder = some t)
      (hversion : s.version = tx.version) (hrows : tx.table = some rows)
      (happly : stmt.apply rows = .error f) :
      Resumes s t tx stmt (.error f.error) s
  | done {rows after : List Row} {n : Nat} (hholder : s.lock.holder = some t)
      (hversion : s.version = tx.version) (hrows : tx.table = some rows)
      (happly : stmt.apply rows = .ok (after, n)) :
      Resumes s t tx stmt (.ok n) (s.written t tx after)

/-- How a query can go in an open transaction.  None changes the store. -/
inductive Answers (s : Store) (tx : Transaction) (q : Query) : Except Error (List Row) → Prop where
  | closed (hclosed : s.closed = true) : Answers s tx q (.error Fault.closed.error)
  | missing (htable : tx.table = none) : Answers s tx q (.error Fault.missingTable.error)
  | faulty {rows : List Row} {f : Fault} (hrows : tx.table = some rows)
      (hselect : q.select rows = .error f) : Answers s tx q (.error f.error)
  | found {rows selected : List Row} (hrows : tx.table = some rows)
      (hselect : q.select rows = .ok selected) : Answers s tx q (.ok selected)

variable {s : Store} {t : Ticket} {tx : Transaction}

theorem applyStatement_of_error {stmt : Statement} {rows : List Row} {f : Fault}
    (hrows : tx.table = some rows) (happly : stmt.apply rows = .error f) :
    s.applyStatement t tx stmt = (.error f.error, s) := by
  unfold applyStatement
  simp only [hrows, happly]

theorem applyStatement_of_ok {stmt : Statement} {rows after : List Row} {n : Nat}
    (hrows : tx.table = some rows) (happly : stmt.apply rows = .ok (after, n)) :
    s.applyStatement t tx stmt = (.ok n, s.written t tx after) := by
  unfold applyStatement written
  simp only [hrows, happly]

/-- A statement of a transaction that holds the lock is applied or refused. -/
theorem executes_applyStatement {rows : List Row} (henters : s.Enters t tx)
    (hrows : tx.table = some rows) (stmt : Statement) :
    Executes s t tx stmt (.settled ((s.hold t).applyStatement t tx stmt).1)
      ((s.hold t).applyStatement t tx stmt).2 := by
  cases happly : stmt.apply rows with
  | error f =>
    rw [applyStatement_of_error hrows happly]
    exact .faulty henters hrows happly
  | ok result =>
    rw [applyStatement_of_ok hrows happly]
    exact .done henters hrows happly

theorem executes (htx : s.transaction? t = some tx)
    (hfree : s.lock.holder = none → s.lock.waiting = []) (stmt : Statement) :
    Executes s t tx stmt (s.exec t stmt).1 (s.exec t stmt).2 := by
  unfold exec
  split
  case isTrue hclosed => exact .closed hclosed
  case isFalse =>
    simp only [htx]
    cases hrows : tx.table with
    | none => exact .missing hrows
    | some rows =>
      simp only [Option.isNone_some, Bool.false_eq_true, if_false]
      cases hholder : s.lock.holder with
      | none =>
        simp only [request_eq_hold hholder, execWithLock]
        by_cases hversion : s.version = tx.version
        · have henters : s.Enters t tx := .inr ⟨hholder, hversion⟩
          simp only [if_pos hversion]
          exact executes_applyStatement henters hrows stmt
        · simp only [if_neg hversion, leaveLock_hold hholder (hfree hholder)]
          exact .contended (by simp [hholder]) (.inr ⟨hholder, hversion⟩)
      | some holder =>
        simp only
        by_cases hself : holder = t
        · subst hself
          have happlied := executes_applyStatement (.inl hholder) hrows stmt
          rw [hold_of_holder hholder] at happlied
          rw [if_pos rfl]
          exact happlied
        · rw [if_neg hself]
          by_cases hbusy : s.busyTimeout = 0
          · rw [if_pos hbusy]
            exact .contended (by simp [hholder, hself]) (.inl ⟨by simp [hholder], hbusy⟩)
          · rw [if_neg hbusy]
            exact .queued hholder hself

theorem resumes (htx : s.transaction? t = some tx) (stmt : Statement) :
    Resumes s t tx stmt (s.resume t stmt).1 (s.resume t stmt).2 := by
  unfold resume
  simp only [htx]
  by_cases hholder : s.lock.holder = some t
  · rw [if_pos hholder]
    unfold execWithLock
    by_cases hversion : s.version = tx.version
    · rw [if_pos hversion]
      cases hrows : tx.table with
      | none =>
        simp only [applyStatement, hrows]
        exact .missing hholder hversion hrows
      | some rows =>
        cases happly : stmt.apply rows with
        | error f =>
          rw [applyStatement_of_error hrows happly]
          exact .faulty hholder hversion hrows happly
        | ok result =>
          rw [applyStatement_of_ok hrows happly]
          exact .done hholder hversion hrows happly
    · rw [if_neg hversion]
      exact .contended (.inr hversion)
  · rw [if_neg hholder]
    exact .contended (.inl hholder)

/-! ## Transactions and the table -/

theorem begin_of_closed (hclosed : s.closed = true) :
    s.begin = (.error Fault.closed.error, s) := by
  unfold begin
  rw [if_pos hclosed]

theorem begin_of_open (hopen : s.closed = false) :
    s.begin = (.ok s.nextTicket,
      { s with
        transactions := s.transactions ++ [(s.nextTicket, (⟨s.version, s.table, false⟩ : Transaction))]
        nextTicket := s.nextTicket + 1 }) := by
  unfold begin
  rw [hopen, if_neg Bool.false_ne_true]

theorem commit_of_closed (hclosed : s.closed = true) :
    s.commit t = (.error Fault.closed.error, s.endTransaction t) := by
  unfold commit
  rw [if_pos hclosed]

theorem commit_of_clean (hopen : s.closed = false) (htx : s.transaction? t = some tx)
    (hclean : tx.dirty = false) : s.commit t = (.ok (), s.endTransaction t) := by
  unfold commit
  simp [hopen, htx, hclean]

theorem commit_of_dirty (hopen : s.closed = false) (htx : s.transaction? t = some tx)
    (hdirty : tx.dirty = true) :
    s.commit t =
      (.ok (), { s.endTransaction t with table := tx.table, version := s.version + 1 }) := by
  unfold commit
  simp [hopen, htx, hdirty, endTransaction, leaveLock]

/-- How a schema creation can go. -/
inductive Creates (s : Store) : Attempt Unit → Store → Prop where
  | closed (hclosed : s.closed = true) : Creates s (.settled (.error Fault.closed.error)) s
  | contended (hholder : s.lock.holder ≠ none) (hbusy : s.busyTimeout = 0) :
      Creates s (.settled (.error .contention)) s
  | done (hholder : s.lock.holder = none) :
      Creates s (.settled (.ok ()))
        (Store.installTable
          { s with lock := s.lock.request s.nextTicket, nextTicket := s.nextTicket + 1 }
          s.nextTicket)
  | queued {holder : Ticket} (hholder : s.lock.holder = some holder) :
      Creates s (.queued s.nextTicket)
        { s with lock := s.lock.request s.nextTicket, nextTicket := s.nextTicket + 1 }

theorem creates (s : Store) : Creates s s.createSchema.1 s.createSchema.2 := by
  unfold createSchema
  split
  case isTrue hclosed => exact .closed hclosed
  case isFalse =>
    cases hholder : s.lock.holder with
    | none => exact .done hholder
    | some holder =>
      by_cases hbusy : s.busyTimeout = 0
      · simp only [if_pos hbusy]
        exact .contended (by simp [hholder]) hbusy
      · simp only [if_neg hbusy]
        exact .queued hholder

/-! ## Queries -/

theorem query_snd (q : Query) : (s.query t q).2 = s := by
  unfold query
  repeat' split
  all_goals rfl

theorem answers (htx : s.transaction? t = some tx) (q : Query) :
    Answers s tx q (s.query t q).1 := by
  unfold query
  split
  case isTrue hclosed => exact .closed hclosed
  case isFalse =>
    simp only [htx]
    cases hrows : tx.table with
    | none => exact .missing hrows
    | some rows =>
      simp only
      cases hselect : q.select rows with
      | error f => exact .faulty hrows hselect
      | ok selected => exact .found hrows hselect

end Turnstile.Store
