import Mathlib.Data.Bool.Basic
import Turnstile.Proofs.Store.Ownership

/-!
# What the history says about the store

The committed rows are what the committed transactions make of an empty table, and the version counts
those that have written.  A transaction sees the rows it started from with its own statements
applied, and it started from the rows that some of the commits had made.  A transaction whose version
is that of the committed rows therefore started from just these rows, whoever has committed without
writing in between.
-/

namespace Turnstile.Store

/-- How many transactions have written. -/
def writes (commits : List Session) : Nat :=
  commits.countP (·.done ≠ [])

namespace Session

/-- The version of the committed rows when the transaction began. -/
def version (σ : Session) (commits : List Session) : Nat :=
  writes (commits.take σ.begun) + σ.base.isSome.toNat

/-- The open transaction that the store keeps. -/
def transaction (σ : Session) (commits : List Session) : Transaction where
  version := σ.version commits
  table := σ.view
  dirty := σ.done ≠ []

/-- The transaction started from the rows that the earliest of the commits had made. -/
def Based (σ : Session) (commits : List Session) : Prop :=
  σ.begun ≤ commits.length ∧ replay (statements (commits.take σ.begun)) [] = some σ.rows

end Session

/-- The open transaction that the store keeps for a use. -/
def Use.transaction? (commits : List Session) : Use → Option Transaction
  | .transaction σ => some (σ.transaction commits)
  | .creation => none

/-- The committed rows are the work of the commits. -/
structure Recorded (h : History) : Prop where
  rows : replay (statements h.commits) [] = some h.store.rows
  version : h.store.version = writes h.commits + h.store.table.isSome.toNat
  based : ∀ before σ after, h.commits = before ++ σ :: after → σ.Based before
  serial : ∀ before σ after, h.commits = before ++ σ :: after → σ.done ≠ [] →
    replay (statements before) [] = some σ.rows

/-- An open transaction fits the history. -/
structure Session.Fits (σ : Session) (h : History) : Prop where
  based : σ.Based h.commits
  table : σ.base.isSome → h.store.table.isSome
  view : σ.view = none → σ.base = none ∧ σ.done = []

/-- The open transactions are those of the uses. -/
structure Tracked (h : History) : Prop where
  unused : ∀ t, h.store.nextTicket ≤ t → h.uses t = none
  transactions : ∀ t, h.store.transaction? t = (h.uses t).bind (Use.transaction? h.commits)
  fits : ∀ t σ, h.uses t = some (.transaction σ) → σ.Fits h

/-- The transaction has seen all that has been written. -/
def History.Current (h : History) (σ : Session) : Prop :=
  σ.version h.commits = h.store.version

/-- The history explains the state of the store. -/
structure History.Consistent (h : History) : Prop where
  recorded : Recorded h
  tracked : Tracked h
  guarded : Guarded h.store.lock h.uses h.Current

/-! ## Transactions by ticket -/

section Lookup

variable (s : Store) (t t' : Ticket)

theorem lookup_cons_of_ne {α : Type} {k : Ticket} (a : α) (rest : List (Ticket × α))
    (h : t' ≠ k) : ((k, a) :: rest).lookup t' = rest.lookup t' := by
  rw [List.lookup_cons, beq_false_of_ne h]

theorem transaction?_setTransaction (tx : Transaction) :
    (s.setTransaction t tx).transaction? t' =
      if t' = t then (s.transaction? t).map fun _ ↦ tx else s.transaction? t' := by
  unfold transaction? setTransaction
  induction s.transactions with
  | nil => simp
  | cons entry rest ih =>
    obtain ⟨k, old⟩ := entry
    by_cases ht : t' = k
    · subst ht
      by_cases hk : t' = t <;> simp [hk]
    · by_cases hk : k = t
      · subst hk
        simpa [lookup_cons_of_ne, ht] using ih
      · simpa [lookup_cons_of_ne, ht, hk, Ne.symm hk] using ih

theorem transaction?_endTransaction :
    (s.endTransaction t).transaction? t' = if t' = t then none else s.transaction? t' := by
  unfold transaction? endTransaction leaveLock
  simp only
  induction s.transactions with
  | nil => simp
  | cons entry rest ih =>
    obtain ⟨k, old⟩ := entry
    by_cases hk : k = t
    · rw [List.filter_cons_of_neg (by simpa using hk), ih]
      by_cases ht : t' = t
      · rw [if_pos ht, if_pos ht]
      · rw [if_neg ht, if_neg ht, lookup_cons_of_ne _ _ _ (hk ▸ ht)]
    · rw [List.filter_cons_of_pos (by simpa using hk)]
      by_cases ht : t' = k
      · subst ht
        rw [List.lookup_cons_self, if_neg hk, List.lookup_cons_self]
      · rw [lookup_cons_of_ne _ _ _ ht, ih, lookup_cons_of_ne _ _ _ ht]

end Lookup

/-! ## Commits so far -/

section Commits

variable {h h' : History} {σ : Session} {commits : List Session}

theorem statements_append (first second : List Session) :
    statements (first ++ second) = statements first ++ statements second :=
  List.flatMap_append

theorem statements_singleton (σ : Session) : statements [σ] = σ.done :=
  List.append_nil σ.done

theorem statements_concat (commits : List Session) (σ : Session) :
    statements (commits ++ [σ]) = statements commits ++ σ.done := by
  rw [statements_append, statements_singleton]

theorem writes_append (first second : List Session) :
    writes (first ++ second) = writes first + writes second :=
  List.countP_append

theorem statements_eq_nil (hwrites : writes commits = 0) : statements commits = [] := by
  unfold statements
  rw [List.flatMap_eq_nil_iff]
  intro σ hσ
  have hnone := List.countP_eq_zero.1 hwrites σ hσ
  simpa using hnone

theorem Session.Based.append (hbased : σ.Based commits) (more : List Session) :
    σ.Based (commits ++ more) := by
  obtain ⟨hbegun, hrows⟩ := hbased
  refine ⟨?_, ?_⟩
  · rw [List.length_append]
    omega
  · rw [List.take_append_of_le_length hbegun]
    exact hrows

theorem Session.Based.version_append (hbased : σ.Based commits) (more : List Session) :
    σ.version (commits ++ more) = σ.version commits := by
  unfold Session.version
  rw [List.take_append_of_le_length hbased.1]

theorem Session.Based.transaction_append (hbased : σ.Based commits) (more : List Session) :
    σ.transaction (commits ++ more) = σ.transaction commits := by
  unfold Session.transaction
  rw [hbased.version_append]

/-- Every transaction that has been committed started from the rows that some of the commits had
made. -/
theorem Recorded.started (hrecorded : Recorded h) (hσ : σ ∈ h.commits) :
    replay (statements (h.commits.take σ.begun)) [] = some σ.rows := by
  obtain ⟨before, after, hsplit⟩ := List.append_of_mem hσ
  obtain ⟨hbegun, hrows⟩ := hrecorded.based before σ after hsplit
  rw [hsplit, List.take_append_of_le_length hbegun]
  exact hrows

/-- Every transaction that has written started from the rows that the commits before it have made. -/
def Serial (commits : List Session) : Prop :=
  ∀ before σ after, commits = before ++ σ :: after → σ.done ≠ [] →
    replay (statements before) [] = some σ.rows

theorem Serial.left {more : List Session} (hserial : Serial (commits ++ more)) : Serial commits := by
  intro before σ after heq
  apply hserial before σ (after ++ more)
  rw [heq, List.append_assoc, List.cons_append]

/-- The last transaction started from what the others have left. -/
theorem Serial.rows_eq {rows : List Row} (hserial : Serial (commits ++ [σ])) (hdone : σ.done ≠ [])
    (hrows : replay (statements commits) [] = some rows) : σ.rows = rows :=
  Option.some.inj ((hserial commits σ [] rfl hdone).symm.trans hrows)

theorem replay_statements_append {more : List Session} {rows : List Row}
    (hrows : replay (statements (commits ++ more)) [] = some rows) :
    ∃ middle, replay (statements commits) [] = some middle ∧
      replay (statements more) middle = some rows := by
  rw [statements_append, replay_append] at hrows
  exact Option.bind_eq_some_iff.1 hrows

/-- Nothing has been written since a transaction that is up to date began. -/
theorem Session.Fits.base_eq_table (hfits : σ.Fits h) (hrecorded : Recorded h)
    (hcurrent : h.Current σ) : σ.base = h.store.table := by
  have hsplit : writes h.commits =
      writes (h.commits.take σ.begun) + writes (h.commits.drop σ.begun) := by
    rw [← writes_append, List.take_append_drop]
  have hversion : writes (h.commits.take σ.begun) + σ.base.isSome.toNat =
      writes h.commits + h.store.table.isSome.toNat :=
    hcurrent.trans hrecorded.version
  have htable : σ.base.isSome.toNat ≤ h.store.table.isSome.toNat :=
    Bool.toNat_le_toNat hfits.table
  have hwrites : writes (h.commits.drop σ.begun) = 0 := by omega
  have hsome : σ.base.isSome.toNat = h.store.table.isSome.toNat := by omega
  have hrows : some σ.rows = some h.store.rows := by
    calc some σ.rows
      _ = replay (statements (h.commits.take σ.begun)) [] := hfits.based.2.symm
      _ = replay (statements (h.commits.take σ.begun ++ h.commits.drop σ.begun)) [] := by
        rw [statements_append, statements_eq_nil hwrites, List.append_nil]
      _ = some h.store.rows := by rw [List.take_append_drop, hrecorded.rows]
  unfold Session.rows Store.rows at hrows
  cases hb : σ.base <;> cases ht : h.store.table <;> simp_all

end Commits

end Turnstile.Store
