import Turnstile.Proofs.Batch
import Turnstile.Proofs.Store.Alone
import Turnstile.Proofs.Workload.Replies

/-!
# What a batch means

A batch has a meaning apart from any store: on given rows it is a text and the rows that follow, or
the failure of the first token that is no numeral.  Each operation sees the rows that are given and
those that the operations before it append.  A batch that meets nobody else comes to its meaning.
-/

namespace Turnstile.Workload.Append

open Batch (Operation)
open Store (Fault History Query Row Statement Value)

/-- The first token of a batch that is no numeral; a value is read just as a key is. -/
def firstBad? (operations : List Operation) : Option String :=
  (operations.flatMap Operation.tokens).find? fun token ↦ (key? token).isNone

/-- What an operation reports on given rows. -/
def reportOn (rows : List Row) : Operation → String
  | .read key => spellRead key ((key? key).elim [] fun k ↦ valuesOf k rows)
  | .append key value => "[:append " ++ key ++ " " ++ value ++ "]"

/-- What the operations of a batch report, each on the rows that there are by then. -/
def reports (rows : List Row) (operations : List Operation) : List String :=
  operations.mapIdx fun i operation ↦
    reportOn (rows ++ (operations.take i).filterMap appended?) operation

/-- The meaning of a batch on given rows: its result, and the rows that it leaves. -/
def interpret (rows : List Row) (operations : List Operation) : Except Error String × List Row :=
  match firstBad? operations with
  | none => (.ok ("[" ++ String.intercalate " " (reports rows operations) ++ "]"),
      rows ++ operations.filterMap appended?)
  | some token => (.error (.storage ("datatype mismatch: " ++ Text.quoted token)), rows)

variable {operation : Operation} {operations : List Operation} {rows view : List Row}

theorem firstBad?_cons (operation : Operation) (rest : List Operation) :
    firstBad? (operation :: rest) = (firstBad? [operation]).or (firstBad? rest) := by
  unfold firstBad?
  rw [List.flatMap_cons, List.find?_append, List.flatMap_singleton]

theorem reports_cons (rows : List Row) (operation : Operation) (rest : List Operation) :
    reports rows (operation :: rest) =
      reportOn rows operation :: reports (rows ++ (appended? operation).toList) rest := by
  unfold reports
  rw [List.mapIdx_cons]
  simp only [List.take_zero, List.filterMap_nil, List.append_nil, List.take_succ_cons,
    filterMap_appended?_cons, List.append_assoc]

/-! ## Undisturbed -/

section Runs

variable {s : Store} {dirty holds : Bool} {answers : List String}

theorem column_text (token : String) :
    (Value.text token).column = match key? token with
      | some n => .ok (some n)
      | none => .error (.mismatch token) :=
  rfl

/-- How operations go for a transaction on its own that sees `view`.  While the transaction has not
written, what it sees is the committed rows. -/
inductive Goes (s : Store) (rows view : List Row) (answers : List String)
    (operations : List Operation) : Except Error String × Store → Prop where
  | answered {dirty holds : Bool} (hgood : firstBad? operations = none)
      (hclean : dirty = false → view ++ operations.filterMap appended? = rows) :
      Goes s rows view answers operations
        (.ok (renderBatch (answers ++ reports view operations)),
          s.alone (view ++ operations.filterMap appended?) dirty holds)
  | failed {token : String} {seen : List Row} {dirty holds : Bool}
      (hbad : firstBad? operations = some token) :
      Goes s rows view answers operations
        (.error (Fault.mismatch token).error, s.alone seen dirty holds)

/-- An operation without a bad token has its report, its row and the rest to come. -/
theorem Goes.cons {outcome : Except Error String × Store} {seen : List Row}
    (hgood : firstBad? [operation] = none) (hseen : seen = view ++ (appended? operation).toList)
    (hrest : Goes s rows seen (answers ++ [reportOn view operation]) operations outcome) :
    Goes s rows view answers (operation :: operations) outcome := by
  have hfirst : firstBad? (operation :: operations) = firstBad? operations := by
    rw [firstBad?_cons, hgood, Option.none_or]
  have hrows : view ++ (operation :: operations).filterMap appended? =
      seen ++ operations.filterMap appended? := by
    rw [hseen, filterMap_appended?_cons, List.append_assoc]
  have hreports : answers ++ reports view (operation :: operations) =
      answers ++ [reportOn view operation] ++ reports seen operations := by
    rw [hseen, reports_cons, List.append_assoc, List.singleton_append]
  cases hrest with
  | answered hgood' hclean =>
    rw [← hfirst] at hgood'
    rw [← hrows] at hclean ⊢
    rw [← hreports]
    exact .answered hgood' hclean
  | failed hbad => exact .failed (hfirst.trans hbad)

theorem Goes.of_bad {token : String} {seen : List Row} {dirty holds : Bool}
    (hbad : firstBad? [operation] = some token) :
    Goes s rows view answers (operation :: operations)
      (.error (Fault.mismatch token).error, s.alone seen dirty holds) := by
  apply Goes.failed
  rw [firstBad?_cons, hbad, Option.some_or]

section Steps

variable (hs : s.AtRest rows)

include hs

theorem run_read (key : String) :
    (runOperation s.nextTicket (.read key)).run.run Store.answer (s.alone view dirty holds) =
      match key? key with
      | some _ => (.ok (reportOn view (.read key)), s.alone view dirty holds)
      | none => (.error (Fault.mismatch key).error, s.alone view dirty holds) := by
  rw [runOperation, Action.run_bind, Database.run_query hs, Query.select, column_text]
  cases hkey : key? key with
  | none => rfl
  | some k =>
    have hreport : reportOn view (.read key) = renderRead key (view.filter (·.key = some k)) := by
      rw [renderRead_eq_spellRead, reportOn, hkey]
      rfl
    rw [hreport]
    rfl

theorem run_append (key value : String) :
    (runOperation s.nextTicket (.append key value)).run.run Store.answer
        (s.alone view dirty holds) =
      match key? key, key? value with
      | some k, some v =>
        (.ok (reportOn view (.append key value)), s.alone (view ++ [⟨some k, v⟩]) true true)
      | none, _ => (.error (Fault.mismatch key).error, s.alone view dirty true)
      | some _, none => (.error (Fault.mismatch value).error, s.alone view dirty true) := by
  rw [runOperation, Action.run_bind, Database.run_exec hs, Statement.apply, column_text]
  cases key? key with
  | none => rfl
  | some k =>
    rw [Value.requiredColumn, column_text]
    cases key? value <;> rfl

end Steps

theorem goes_runOperations (hs : s.AtRest rows) (operations : List Operation) (view : List Row)
    (answers : List String) (dirty holds : Bool) (hclean : dirty = false → view = rows) :
    Goes s rows view answers.reverse operations
      ((runOperations s.nextTicket answers operations).run.run Store.answer
        (s.alone view dirty holds)) := by
  -- Answers and rows grow together; as long as only reads have come, the rows are the committed ones.
  induction operations generalizing view answers dirty holds with
  | nil =>
    have hend : Goes s rows view answers.reverse []
        (.ok (renderBatch (answers.reverse ++ [])), s.alone (view ++ []) dirty holds) :=
      .answered rfl fun h ↦ (List.append_nil view).trans (hclean h)
    rwa [List.append_nil, List.append_nil] at hend
  | cons operation rest ih =>
    rw [runOperations, Action.run_bind]
    cases operation with
    | read key =>
      rw [run_read hs]
      cases hkey : key? key with
      | none => exact .of_bad (by simp [firstBad?, Operation.tokens, hkey])
      | some k =>
        have hrest := ih view (reportOn view (.read key) :: answers) dirty holds hclean
        rw [List.reverse_cons] at hrest
        exact .cons (by simp [firstBad?, Operation.tokens, hkey]) (List.append_nil view).symm hrest
    | append key value =>
      rw [run_append hs]
      cases hkey : key? key with
      | none => exact .of_bad (by simp [firstBad?, Operation.tokens, hkey])
      | some k =>
        cases hvalue : key? value with
        | none => exact .of_bad (by simp [firstBad?, Operation.tokens, hkey, hvalue])
        | some v =>
          have hrest := ih (view ++ [⟨some k, v⟩]) (reportOn view (.append key value) :: answers)
            true true fun hdirty ↦ absurd hdirty.symm Bool.false_ne_true
          rw [List.reverse_cons] at hrest
          apply Goes.cons (by simp [firstBad?, Operation.tokens, hkey, hvalue]) _ hrest
          rw [appended?_append, hkey, hvalue]
          rfl

end Runs

/-- A batch on its own comes to its meaning, and leaves the lock as it was. -/
theorem execute_eq_interpret {timeout : Nat} {h : History} (hreach : h.Reachable timeout)
    (hopen : h.store.closed = false) {rows : List Row} (htable : h.store.table = some rows)
    (hfree : h.store.lock.holder = none) (operations : List Operation) :
    ∃ after, (execute operations).run.run Store.answer h.store =
        ((interpret rows operations).1, after) ∧
      after.table = some (interpret rows operations).2 ∧ after.lock = h.store.lock := by
  have hs := hreach.atRest hopen htable hfree
  have hgoes := goes_runOperations hs operations rows [] false false fun _ ↦ rfl
  generalize hbody : (runOperations h.store.nextTicket [] operations).run.run Store.answer
    (h.store.alone rows false false) = outcome at hgoes
  cases hgoes with
  | @answered dirty _ hgood hclean =>
    rw [execute, Database.run_transact hs hbody, interpret, hgood]
    exact ⟨_, rfl, hs.table_settled hclean, Store.lock_settled dirty⟩
  | failed hbad =>
    rw [execute, Database.run_transact hs hbody, interpret, hbad]
    exact ⟨_, rfl, htable, rfl⟩

/-- Rows for one account and for none. -/
def noted : List Row :=
  [⟨some 1, 10⟩, ⟨none, 5⟩]

/-- Numerals may be written in several ways.  A token that is none undoes the appends before it, and
is reported before the tokens after it. -/
theorem execute_eq_interpret_noted :
    ∃ h after after', History.stocked noted = some h ∧ h.store.closed = false ∧
      h.store.table = some noted ∧ h.store.lock.holder = none ∧
      (execute [.read "01", .append "+1" "007", .append "2" "8", .read "1"]).run.run Store.answer
        h.store = (.ok "[[:r 01 [10]] [:append +1 007] [:append 2 8] [:r 1 [10 7]]]", after) ∧
      after.table = some (noted ++ [⟨some 1, 7⟩, ⟨some 2, 8⟩]) ∧ after.lock = h.store.lock ∧
      (execute [.append "1" "7", .read "x", .append "y" "z"]).run.run Store.answer h.store =
        (.error (.storage "datatype mismatch: \"x\""), after') ∧
      after'.table = some noted ∧ after'.lock = h.store.lock := by
  obtain ⟨h, hstocked, hreach, hs⟩ := History.exists_stocked noted
  have hfree : h.store.lock.holder = none := congrArg Store.Lock.holder hs.lock
  obtain ⟨after, hresult, hrows, hlock⟩ := execute_eq_interpret hreach hs.opened hs.table hfree
    [.read "01", .append "+1" "007", .append "2" "8", .read "1"]
  obtain ⟨after', hresult', hrows', hlock'⟩ := execute_eq_interpret hreach hs.opened hs.table hfree
    [.append "1" "7", .read "x", .append "y" "z"]
  exact ⟨h, after, after', hstocked, hs.opened, hs.table, hfree, hresult, hrows, hlock, hresult',
    hrows', hlock'⟩

end Turnstile.Workload.Append
