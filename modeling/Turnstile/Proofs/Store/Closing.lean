import Turnstile.Proofs.Store.Preservation

/-!
# A closed store

Closing a store refuses every call that starts afterwards, but a call that waits for the lock has
passed this check already, and a transaction keeps the lock that it holds.  What freezes the rows
all the same is that the lock is only ever held over an existing table: a schema creation that gets
it after the close finds nothing to do, a statement that gets it changes the rows of its own
transaction alone, and the commit of these rows is refused.
-/

namespace Turnstile.Store

/-- Whether a call has failed with this error. -/
def Call.Fails (e : Error) : (c : interface.Call) → interface.Answer c → Prop
  | .begin, result => result = .error e
  | .exec _ _, .settled result => result = .error e
  | .exec _ _, .queued _ => False
  | .resume _ _, result => result = .error e
  | .query _ _, result => result = .error e
  | .commit _, result => result = .error e
  | .rollback _, result => result = .error e
  | .createSchema, .settled result => result = .error e
  | .createSchema, .queued _ => False
  | .resumeSchema _, result => result = .error e
  | .close, result => result = .error e

/-- The calls that ask whether the store is closed.  The others end a wait that has begun earlier,
let a transaction go, or close the store again. -/
def Call.Checked : interface.Call → Prop
  | .begin | .exec _ _ | .query _ _ | .commit _ | .createSchema => True
  | .resume _ _ | .rollback _ | .resumeSchema _ | .close => False

/-- The lock is held over an existing table alone. -/
def Founded (s : Store) : Prop :=
  s.lock.holder ≠ none → s.table.isSome

section Calls

variable {s : Store} {t : Ticket}

theorem founded_of_table (htable : s.table.isSome) : s.Founded :=
  fun _ ↦ htable

theorem Founded.leaveLock (hfounded : s.Founded) (t : Ticket) : (s.leaveLock t).Founded := by
  intro hholder
  apply hfounded
  intro hnone
  apply hholder
  calc (s.lock.leave t).holder
    _ = if s.lock.holder = some t then s.lock.waiting.head? else s.lock.holder :=
      Guarded.holder_leave s.lock t
    _ = none := by simp [hnone]

theorem Founded.endTransaction (hfounded : s.Founded) (t : Ticket) :
    (s.endTransaction t).Founded :=
  hfounded.leaveLock t

theorem table_installTable_isSome (s : Store) (t : Ticket) : (s.installTable t).table.isSome := by
  cases htable : s.table with
  | none => simp [installTable_of_none htable]
  | some rows => simp [table_installTable t htable]

/-- Whoever holds the lock over an existing table has no table to make. -/
theorem Founded.table_installTable (hfounded : s.Founded) (hholder : s.lock.holder = some t) :
    (s.installTable t).table = s.table := by
  obtain ⟨rows, htable⟩ := Option.isSome_iff_exists.1 (hfounded (hholder ▸ Option.some_ne_none t))
  rw [Store.table_installTable t htable, htable]

@[simp] theorem closed_leaveLock : (s.leaveLock t).closed = s.closed := rfl

@[simp] theorem closed_endTransaction : (s.endTransaction t).closed = s.closed := rfl

@[simp] theorem closed_installTable : (s.installTable t).closed = s.closed := by
  cases htable : s.table with
  | none => rw [installTable_of_none htable, closed_leaveLock]
  | some rows => rw [installTable_of_some htable, closed_leaveLock]

/-- A closed store refuses every call that asks. -/
theorem fails_of_closed (hclosed : s.closed) {c : interface.Call} (hchecked : Call.Checked c) :
    Call.Fails Fault.closed.error c (Store.answer c s).1 := by
  cases c with
  | begin =>
    simp only [Store.answer, begin_of_closed hclosed]
    rfl
  | exec t stmt =>
    simp only [Store.answer, exec, if_pos hclosed]
    rfl
  | query t q =>
    simp only [Store.answer, query, if_pos hclosed]
    rfl
  | commit t =>
    simp only [Store.answer, commit_of_closed hclosed]
    rfl
  | createSchema =>
    simp only [Store.answer, createSchema, if_pos hclosed]
    rfl
  | resume | rollback | resumeSchema | close => exact hchecked.elim

/-- The end of the wait of a statement leaves the committed rows alone. -/
theorem resume_keeps (s : Store) (t : Ticket) (stmt : Statement) :
    (s.resume t stmt).2.closed = s.closed ∧ (s.resume t stmt).2.table = s.table := by
  unfold resume execWithLock applyStatement
  repeat' split
  all_goals exact ⟨rfl, rfl⟩

/-- No call changes the table of a closed store, or opens it again. -/
theorem Founded.answer_of_closed (hfounded : s.Founded) (hclosed : s.closed) (c : interface.Call) :
    (Store.answer c s).2.closed ∧ (Store.answer c s).2.table = s.table := by
  cases c with
  | begin => simp [Store.answer, begin_of_closed hclosed, hclosed]
  | exec t stmt => simp [Store.answer, exec, hclosed]
  | resume t stmt =>
    obtain ⟨hsame, htable⟩ := s.resume_keeps t stmt
    exact ⟨hsame.trans hclosed, htable⟩
  | query t q => simp [Store.answer, query_snd, hclosed]
  | commit t =>
    simp only [Store.answer, commit_of_closed hclosed]
    exact ⟨hclosed, rfl⟩
  | rollback t => exact ⟨hclosed, rfl⟩
  | createSchema => simp [Store.answer, createSchema, hclosed]
  | resumeSchema t =>
    simp only [Store.answer, resumeSchema]
    split
    case isTrue hholder =>
      exact ⟨closed_installTable.trans hclosed, hfounded.table_installTable hholder⟩
    case isFalse => exact ⟨hclosed, rfl⟩
  | close => exact ⟨rfl, rfl⟩

end Calls

namespace History

variable {timeout : Nat} {h h' : History} {t : Ticket} {σ : Session} {m : Move}

/-! ## The lock and the table -/

/-- A transaction that sees a table has found it in the store. -/
theorem Consistent.table_of_view (c : h.Consistent) (huse : h.uses t = some (.transaction σ))
    (hview : σ.view ≠ none) : h.store.table.isSome := by
  apply (c.fits huse).table
  rw [Option.isSome_iff_ne_none]
  intro hbase
  apply hview
  simp [Session.view, hbase]

theorem Consistent.founded_exec (c : h.Consistent) (hfounded : h.store.Founded)
    (huse : h.uses t = some (.transaction σ)) (stmt : Statement) :
    (h.store.exec t stmt).2.Founded := by
  have htable {rows : List Row} (hrows : (σ.transaction h.commits).table = some rows) :
      h.store.table.isSome := by
    apply c.table_of_view huse
    exact Option.ne_none_iff_exists'.2 ⟨rows, hrows⟩
  have hexecutes := executes (c.tracked.transaction? huse) c.guarded.free stmt
  generalize h.store.exec t stmt = result at hexecutes
  obtain ⟨answer, after⟩ := result
  cases hexecutes with
  | closed | missing | contended => exact hfounded
  | faulty _ hrows => exact founded_of_table (htable hrows)
  | done _ hrows => exact founded_of_table (htable hrows)
  | queued hholder => exact founded_of_table (hfounded (hholder ▸ Option.some_ne_none _))

theorem Consistent.founded_resume (c : h.Consistent) (hfounded : h.store.Founded)
    (huse : h.uses t = some (.transaction σ)) (stmt : Statement) :
    (h.store.resume t stmt).2.Founded := by
  have hresumes := resumes (c.tracked.transaction? huse) stmt
  generalize h.store.resume t stmt = result at hresumes
  obtain ⟨answer, after⟩ := result
  cases hresumes with
  | contended => exact hfounded.leaveLock t
  | missing | faulty | done => exact hfounded

theorem Consistent.founded_commit (c : h.Consistent) (hfounded : h.store.Founded)
    (huse : h.uses t = some (.transaction σ)) : (h.store.commit t).2.Founded := by
  have htx := c.tracked.transaction? huse
  cases hclosed : h.store.closed with
  | true =>
    rw [commit_of_closed hclosed]
    exact hfounded.endTransaction t
  | false =>
    cases hdirty : (σ.transaction h.commits).dirty with
    | false =>
      rw [commit_of_clean hclosed htx hdirty]
      exact hfounded.endTransaction t
    | true =>
      rw [commit_of_dirty hclosed htx hdirty]
      have hdone : σ.done ≠ [] := of_decide_eq_true hdirty
      have hview : σ.view ≠ none := fun hnone ↦ hdone ((c.fits huse).view hnone).2
      exact founded_of_table (Option.isSome_iff_ne_none.2 hview)

theorem founded_createSchema (hfounded : h.store.Founded) : h.store.createSchema.2.Founded := by
  have hcreates := creates h.store
  generalize h.store.createSchema = result at hcreates
  obtain ⟨answer, after⟩ := result
  cases hcreates with
  | closed | contended => exact hfounded
  | done => exact founded_of_table (table_installTable_isSome _ _)
  | queued hholder => exact founded_of_table (hfounded (hholder ▸ Option.some_ne_none _))

/-- The lock comes to be held by a statement of a transaction that sees a table, or by a schema
creation that has waited behind such a statement. -/
theorem Consistent.founded_after (c : h.Consistent) (hfounded : h.store.Founded)
    (hlegal : h.Legal m) : (h.after m).store.Founded := by
  cases m with
  | drop t => exact hfounded.endTransaction t
  | call call =>
    cases call with
    | begin =>
      change h.store.begin.2.Founded
      unfold Store.begin
      split <;> exact hfounded
    | exec t stmt =>
      obtain ⟨σ, huse, _⟩ := hlegal
      exact c.founded_exec hfounded huse stmt
    | resume t stmt =>
      obtain ⟨σ, huse, _⟩ := hlegal
      exact c.founded_resume hfounded huse stmt
    | query t q =>
      change (h.store.query t q).2.Founded
      rw [query_snd]
      exact hfounded
    | commit t =>
      obtain ⟨σ, huse, _⟩ := hlegal
      exact c.founded_commit hfounded huse
    | rollback t => exact hfounded.endTransaction t
    | createSchema => exact founded_createSchema hfounded
    | resumeSchema t =>
      change (h.store.resumeSchema t).2.Founded
      unfold Store.resumeSchema
      split
      · exact founded_of_table (table_installTable_isSome _ _)
      · exact hfounded.leaveLock t
    | close => exact hfounded

theorem Reachable.founded (hreach : Reachable timeout h) : h.store.Founded := by
  induction hreach with
  | start => exact fun hholder ↦ absurd rfl hholder
  | move m hreach hlegal ih => exact hreach.consistent.founded_after ih hlegal

/-! ## After the close -/

/-- Nothing moves a closed store. -/
theorem after_of_closed (hfounded : h.store.Founded) (hclosed : h.store.closed) (m : Move) :
    (h.after m).store.closed ∧ (h.after m).store.table = h.store.table := by
  cases m with
  | call c => exact hfounded.answer_of_closed hclosed c
  | drop t => exact ⟨hclosed, rfl⟩

theorem run_cons {rest : List Move} (hrun : h.run (m :: rest) = some h') :
    h.Legal m ∧ (h.after m).run rest = some h' := by
  unfold run at hrun
  split at hrun
  case isTrue hlegal => exact ⟨hlegal, hrun⟩
  case isFalse => simp at hrun

theorem Reachable.run_of_closed (hreach : Reachable timeout h) (hclosed : h.store.closed)
    {moves : List Move} (hrun : h.run moves = some h') :
    h'.store.closed ∧ h'.store.table = h.store.table := by
  induction moves generalizing h with
  | nil =>
    obtain rfl := Option.some.inj hrun
    exact ⟨hclosed, rfl⟩
  | cons m rest ih =>
    obtain ⟨hlegal, hrest⟩ := run_cons hrun
    obtain ⟨hstill, hsame⟩ := after_of_closed hreach.founded hclosed m
    obtain ⟨hend, htable⟩ := ih (hreach.move m hlegal) hstill hrest
    exact ⟨hend, htable.trans hsame⟩

/-- The store is closed over this table, and refuses every call that asks. -/
structure Frozen (table : Option (List Row)) (h : History) : Prop where
  closed : h.store.closed
  table : h.store.table = table
  refuses : ∀ c, Call.Checked c →
    Call.Fails (.storage "database is closed") c (Store.answer c h.store).1

/-- Whatever transactions are open, hold the lock or wait for it when the store is closed, and
whatever schema creation waits, the table stays as it is. -/
theorem Reachable.frozen (hreach : Reachable timeout h) {moves : List Move}
    (hrun : (h.call .close).run moves = some h') : Frozen h.store.table h' := by
  have hclose : Reachable timeout (h.call .close) := hreach.move (.call .close) trivial
  obtain ⟨hclosed, htable⟩ := hclose.run_of_closed rfl hrun
  exact ⟨hclosed, htable, fun _ ↦ fails_of_closed hclosed⟩

/-- One transaction has written, the statement of another and a schema creation wait behind it. -/
def crowd : List Move :=
  [.call .createSchema, .call .begin, .call (.exec 2 (.insert (.integer 1) (.integer 10))),
    .call (.commit 2), .call .begin, .call .begin,
    .call (.exec 3 (.insert (.integer 2) (.integer 20))),
    .call (.exec 4 (.insert (.integer 3) (.integer 30))), .call .createSchema]

/-- The commit of the first is refused and hands the lock on; the statement that has waited
succeeds, its transaction does not; the schema creation finds a table. -/
def aftermath : List Move :=
  [.call (.commit 3), .call (.resume 4 (.insert (.integer 3) (.integer 30))), .call (.commit 4),
    .call (.resumeSchema 5)]

theorem frozen_crowd :
    ∃ h h', (start 5).run crowd = some h ∧ h.store.lock = ⟨some 3, [4, 5]⟩ ∧
      (h.call .close).run aftermath = some h' ∧ h'.store.rows = [⟨some 1, 10⟩] ∧
      Frozen h.store.table h' := by
  let h := ((start 5).run crowd).get (by decide)
  have hcrowd : (start 5).run crowd = some h := Option.eq_some_of_isSome _
  have haftermath : (h.call .close).run aftermath =
      some (((h.call .close).run aftermath).get (by decide)) := Option.eq_some_of_isSome _
  refine ⟨h, _, hcrowd, by decide, haftermath, by decide, ?_⟩
  exact Reachable.frozen (Reachable.start.run hcrowd) haftermath

end History

end Turnstile.Store
