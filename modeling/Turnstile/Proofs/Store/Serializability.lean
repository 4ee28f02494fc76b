import Turnstile.Proofs.Store.Preservation
import Turnstile.Proofs.Store.Statement

/-!
# Serializability

However the calls of transactions and schema creations interleave, the committed rows are those of
the committed transactions run one after another, each on the rows that the one before has left.  No
update is lost, since a transaction that commits a write has started from the rows that its commit
replaces, and no transaction sees anything of another that was not committed when it began.
-/

namespace Turnstile.Store

/-- A statement has been refused, at once or at the end of its wait. -/
def Refused : (c : interface.Call) → interface.Answer c → Prop
  | .exec _ _, .settled (.error _) => True
  | .resume _ _, .error _ => True
  | _, _ => False

/-- The statements that have succeeded in the transaction of a use. -/
def Use.done : Use → List Statement
  | .transaction σ => σ.done
  | .creation => []

namespace History

/-- The transactions of the history could have run one after another. -/
structure Serializable (h : History) : Prop where
  committed : replay (statements h.commits) [] = some h.store.rows
  fresh : ∀ before σ after, h.commits = before ++ σ :: after → σ.done ≠ [] →
    replay (statements before) [] = some σ.rows
  /-- A query finds the rows that it asks for among those committed when its transaction began, with
  the transaction's own statements applied. -/
  snapshot : ∀ t σ q selected, h.uses t = some (.transaction σ) →
    (h.store.query t q).1 = .ok selected →
    ∃ base view, σ.base = some base ∧
      replay (statements (h.commits.take σ.begun)) [] = some base ∧
      replay σ.done base = some view ∧ q.select view = .ok selected ∧ q.Selects view selected
  refused : ∀ c, h.Allows c → Refused c (Store.answer c h.store).1 →
    (h.call c).commits = h.commits ∧ (h.call c).store.table = h.store.table ∧
      (h.call c).store.transactions = h.store.transactions ∧
      ∀ t, ((h.call c).uses t).map Use.done = (h.uses t).map Use.done
  schema : ∀ rows, h.store.table = some rows → h.store.createSchema.2.table = some rows ∧
    ∀ t, (h.store.resumeSchema t).2.table = some rows

variable {h : History} {t : Ticket} {σ : Session} {busyTimeout : Nat}

theorem Consistent.snapshot (c : h.Consistent) (huse : h.uses t = some (.transaction σ))
    {q : Query} {selected : List Row} (hfound : (h.store.query t q).1 = .ok selected) :
    ∃ base view, σ.base = some base ∧
      replay (statements (h.commits.take σ.begun)) [] = some base ∧
      replay σ.done base = some view ∧ q.select view = .ok selected ∧ q.Selects view selected := by
  have hanswers := answers (c.tracked.transaction? huse) q
  rw [hfound] at hanswers
  cases hanswers with
  | found hrows hselect =>
    obtain ⟨base, hbase, hview⟩ := Option.bind_eq_some_iff.1 hrows
    have hcommitted := (c.fits huse).based.2
    rw [Session.rows, hbase] at hcommitted
    exact ⟨base, _, hbase, hcommitted, hview, hselect, Query.selects_of_select hselect⟩

theorem map_done_setUse (huse : h.uses t = some (.transaction σ)) {σ' : Session}
    (hdone : σ'.done = σ.done) (t' : Ticket) :
    ((h.setUse t (some (.transaction σ'))).uses t').map Use.done = (h.uses t').map Use.done := by
  unfold setUse
  by_cases ht : t' = t
  · subst ht
    simp [huse, Use.done, hdone]
  · simp [Function.update_of_ne ht]

theorem Consistent.refused (c : h.Consistent) (call : Call) (hallows : h.Allows call)
    (hrefused : Refused call (Store.answer call h.store).1) :
    (h.call call).commits = h.commits ∧ (h.call call).store.table = h.store.table ∧
      (h.call call).store.transactions = h.store.transactions ∧
      ∀ t, ((h.call call).uses t).map Use.done = (h.uses t).map Use.done := by
  cases call with
  | exec t stmt =>
    obtain ⟨σ, huse, _⟩ := hallows
    have hexecutes := executes (c.tracked.transaction? huse) c.guarded.free stmt
    unfold History.call
    simp only [Store.answer] at hrefused ⊢
    generalize h.store.exec t stmt = result at hexecutes hrefused ⊢
    obtain ⟨answer, after⟩ := result
    cases hexecutes with
    | closed | missing | contended | faulty => exact ⟨rfl, rfl, rfl, fun _ ↦ rfl⟩
    | done | queued => exact hrefused.elim
  | resume t stmt =>
    obtain ⟨σ, huse, hwaits⟩ := hallows
    have hresumes := resumes (c.tracked.transaction? huse) stmt
    unfold History.call
    simp only [Store.answer] at hrefused ⊢
    generalize h.store.resume t stmt = result at hresumes hrefused ⊢
    obtain ⟨answer, after⟩ := result
    cases hresumes with
    | contended | missing | faulty =>
      have hnote : h.change t (·.rest) = h.setUse t (some (.transaction σ.rest)) :=
        change_transaction huse _
      have hcommits : (h.change t (·.rest)).commits = h.commits := by rw [hnote]; rfl
      refine ⟨hcommits, rfl, rfl, fun t' ↦ ?_⟩
      rw [← map_done_setUse huse (rfl : σ.rest.done = σ.done) t', ← hnote]
      rfl
    | done => exact hrefused.elim
  | _ => exact hrefused.elim

/-- The creation of the schema leaves the rows of an existing table alone. -/
theorem schema_table {rows : List Row} (htable : h.store.table = some rows) :
    h.store.createSchema.2.table = some rows ∧
      ∀ t, (h.store.resumeSchema t).2.table = some rows := by
  constructor
  · have hcreates := creates h.store
    generalize h.store.createSchema = result at hcreates
    obtain ⟨answer, after⟩ := result
    cases hcreates with
    | closed | contended | queued => exact htable
    | done => exact table_installTable _ htable
  · intro t
    unfold Store.resumeSchema
    split
    · exact table_installTable _ htable
    · exact htable

theorem Reachable.serializable (hreach : Reachable busyTimeout h) : h.Serializable where
  committed := hreach.consistent.recorded.rows
  fresh := hreach.consistent.recorded.serial
  snapshot _ _ _ _ huse hfound := hreach.consistent.snapshot huse hfound
  refused call hallows hrefused := hreach.consistent.refused call hallows hrefused
  schema _ htable := schema_table htable

/-- Two transactions begin on the same rows.  The statement of the second waits for the lock, is
refused once the first has committed, and succeeds in a transaction that begins afterwards. -/
def overlap : List Move :=
  let insert (key value : Int64) : Statement := .insert (.integer key) (.integer value)
  [.call .createSchema, .call .begin, .call .begin, .call (.exec 2 (insert 1 10)),
    .call (.query 3 .all), .call (.exec 3 (insert 1 20)),
    .call (.exec 2 (.debit (.text "one") (.integer 1))), .call (.commit 2),
    .call (.resume 3 (insert 1 20)), .call .begin, .call (.exec 4 (insert 1 30)), .call .begin,
    .drop 3, .call (.commit 4), .call (.query 5 .all)]

theorem serializable_overlap :
    ∃ h, (start 5).run overlap = some h ∧ h.store.rows = [⟨some 1, 10⟩, ⟨some 1, 30⟩] ∧
      h.commits.length = 2 ∧ (h.store.query 5 .all).1 = .ok [⟨some 1, 10⟩] ∧ h.Serializable := by
  refine ⟨((start 5).run overlap).get (by decide), Option.eq_some_of_isSome _, by decide, by decide,
    by decide, ?_⟩
  exact Reachable.serializable (Reachable.start.run (Option.eq_some_of_isSome (by decide)))

end History

end Turnstile.Store
