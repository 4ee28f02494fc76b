import Turnstile.Proofs.Store.Alone
import Turnstile.Proofs.Workload.Transfer

/-!
# Transfers row by row

The table may hold any number of rows for an account, and rows of other workloads beside them.  A
transfer takes its amount from every row of the source and gives it to every row of the target, in
place, or it fails and leaves the committed rows alone.  So the total changes by the amount for each
row that the target has more than the source.
-/

namespace Turnstile.Workload.Bank

open Store (History Room Row Statement Ticket count total)

/-- A row before and after a transfer. -/
structure Transfer.Moves (r : Transfer) (row row' : Row) : Prop where
  sameKey : row'.key = row.key
  value : row'.value.toInt = row.value.toInt -
    (if row.key = some r.source then r.amount.toInt else 0) +
    (if row.key = some r.target then r.amount.toInt else 0)

/-- The transfer has been made, row by row. -/
structure Transfer.Made (r : Transfer) (rows after : List Row) : Prop where
  inPlace : List.Forall₂ r.Moves rows after
  change : total after = total rows + r.amount.toInt * (count r.target rows - count r.source rows)
  conserved : count r.target rows = count r.source rows → total after = total rows

/-- The amount can be taken away, and every value that it is taken from or given to stays in its
range; what is taken from an account can be given back to it. -/
def Transfer.Possible (r : Transfer) (rows : List Row) : Prop :=
  r.amount ≠ Int64.minValue ∧ Room r.source (-r.amount.toInt) rows ∧
    (r.target ≠ r.source → Room r.target r.amount.toInt rows)

instance (r : Transfer) (rows : List Row) : Decidable (r.Possible rows) :=
  inferInstanceAs (Decidable (_ ∧ _))

/-! ## The two updates -/

section Rows

variable {r : Transfer} {rows taken given : List Row}

theorem forall₂_comp {α β γ : Type} {R : α → β → Prop} {S : β → γ → Prop} {T : α → γ → Prop}
    (hcomp : ∀ a b c, R a b → S b c → T a c) {l : List α} {m : List β} {n : List γ}
    (hfirst : List.Forall₂ R l m) (hsecond : List.Forall₂ S m n) : List.Forall₂ T l n := by
  induction hfirst generalizing n with
  | nil =>
    cases hsecond
    exact .nil
  | cons hR _ ih =>
    cases hsecond with
    | cons hS hrest => exact .cons (hcomp _ _ _ hR hS) (ih hrest)

variable (htaken : List.Forall₂ (Row.Moves r.source (-r.amount.toInt)) rows taken)

include htaken

/-- Once the amount has been taken, there is room to give it where there was before, and on the rows
that it has been taken from. -/
theorem room_taken : Room r.target r.amount.toInt taken ↔
    (r.target ≠ r.source → Room r.target r.amount.toInt rows) := by
  induction htaken with
  | nil => exact iff_of_true (List.forall_mem_nil _) fun _ ↦ List.forall_mem_nil _
  | @cons row row' rest tail hrow _ ih =>
    have hfirst : (row'.key = some r.target → Numeral.Fits (row'.value.toInt + r.amount.toInt)) ↔
        (r.target ≠ r.source → row.key = some r.target →
          Numeral.Fits (row.value.toInt + r.amount.toInt)) := by
      rw [hrow.sameKey, hrow.value]
      by_cases hsame : r.target = r.source
      · rw [hsame]
        refine iff_of_true (fun hkey ↦ ?_) fun hne ↦ absurd rfl hne
        rw [if_pos hkey, Int.neg_add_cancel_right]
        exact Numeral.fits_toInt row.value
      · have hother (hkey : row.key = some r.target) : ¬ row.key = some r.source :=
          fun hsource ↦ hsame (Option.some.inj (hkey.symm.trans hsource))
        constructor
        · intro h _ hkey
          have hfits := h hkey
          rwa [if_neg (hother hkey), Int.add_zero] at hfits
        · intro h hkey
          rw [if_neg (hother hkey), Int.add_zero]
          exact h hsame hkey
    rw [Store.room_cons, Store.room_cons, hfirst, ih]
    exact ⟨fun h hne ↦ ⟨h.1 hne, h.2 hne⟩, fun h ↦ ⟨fun hne ↦ (h hne).1, fun hne ↦ (h hne).2⟩⟩

theorem made_of_moves (hgiven : List.Forall₂ (Row.Moves r.target r.amount.toInt) taken given) :
    r.Made rows given := by
  have htotal : total given = total rows +
      r.amount.toInt * (count r.target rows - count r.source rows) := by
    calc total given
      _ = total taken + r.amount.toInt * count r.target taken := Store.total_of_moves hgiven
      _ = total rows + -r.amount.toInt * count r.source rows +
          r.amount.toInt * count r.target rows := by
        rw [Store.total_of_moves htaken, Store.count_congr (Store.keys_of_moves htaken)]
      _ = _ := by ring
  constructor
  case inPlace =>
    refine forall₂_comp ?_ htaken hgiven
    intro row middle row' hfirst hsecond
    refine ⟨hsecond.sameKey.trans hfirst.sameKey, ?_⟩
    rw [hsecond.value, hfirst.sameKey, hfirst.value]
    split <;> rfl
  case change => exact htotal
  case conserved =>
    intro heq
    rw [htotal, heq]
    ring

end Rows

/-! ## Undisturbed -/

section Runs

variable {s : Store} {r : Transfer} {rows : List Row}

/-- How a transfer on its own goes. -/
inductive Goes (r : Transfer) (s : Store) (rows : List Row) : Except Error Unit × Store → Prop where
  | made {after : List Row} (hpossible : r.Possible rows) (hmade : r.Made rows after) :
      Goes r s rows (.ok (), s.settled after true)
  | refused (himpossible : ¬ r.Possible rows) :
      Goes r s rows (.error Store.Fault.overflow.error, s.spent)

theorem run_move (hs : s.AtRest rows) (r : Transfer) :
    (move s.nextTicket r).run.run Store.answer (s.alone rows false false) =
      match Store.update (.integer r.source) (.integer r.amount) (-1) rows with
      | .error f => (.error f.error, s.alone rows false true)
      | .ok (taken, _) =>
        match Store.update (.integer r.target) (.integer r.amount) 1 taken with
        | .error f => (.error f.error, s.alone taken true true)
        | .ok (given, _) => (.ok (), s.alone given true true) := by
  rw [move, Action.run_bind, Database.run_exec hs]
  simp only [Statement.apply]
  cases Store.update (.integer r.source) (.integer r.amount) (-1) rows with
  | error f => rfl
  | ok result =>
    simp only
    rw [Action.run_bind, Database.run_exec hs]
    simp only [Statement.apply]
    cases Store.update (.integer r.target) (.integer r.amount) 1 result.1 <;> rfl

theorem goes_of_atRest (hs : s.AtRest rows) (r : Transfer) :
    Goes r s rows ((transfer r).run.run Store.answer s) := by
  have hbody := run_move hs r
  have hdebit := Store.updates r.source r.amount (-1) rows
  rw [Int.mul_neg_one] at hdebit
  cases htake : Store.update (.integer r.source) (.integer r.amount) (-1) rows with
  | error f =>
    rw [htake] at hbody hdebit
    rw [transfer, Database.run_transact hs hbody]
    cases hdebit with
    | overflow hout =>
      exact .refused fun hpossible ↦ hout ⟨Numeral.fits_neg_toInt.2 hpossible.1, hpossible.2.1⟩
  | ok result =>
    obtain ⟨taken, n⟩ := result
    rw [htake] at hbody hdebit
    simp only at hbody
    cases hdebit with
    | done hfits hroom htaken =>
      have hcredit := Store.updates r.target r.amount 1 taken
      rw [Int.mul_one] at hcredit
      cases hgive : Store.update (.integer r.target) (.integer r.amount) 1 taken with
      | error f =>
        rw [hgive] at hbody hcredit
        rw [transfer, Database.run_transact hs hbody]
        cases hcredit with
        | overflow hout =>
          refine .refused fun hpossible ↦ hout ⟨Numeral.fits_toInt _, ?_⟩
          exact (room_taken htaken).2 hpossible.2.2
      | ok result =>
        obtain ⟨given, m⟩ := result
        rw [hgive] at hbody hcredit
        rw [transfer, Database.run_transact hs hbody]
        cases hcredit with
        | done _ hroom' hgiven =>
          refine .made ⟨Numeral.fits_neg_toInt.1 hfits, hroom, ?_⟩ (made_of_moves htaken hgiven)
          exact (room_taken htaken).1 hroom'

/-- While another transaction has the lock, a statement is refused as a conflict, at once or when its
wait is over. -/
theorem run_exec_of_holder {t holder : Ticket} {tx : Store.Transaction} (hopen : s.closed = false)
    (htx : s.transaction? t = some tx) (hrows : tx.table = some rows)
    (hholder : s.lock.holder = some holder) (hother : holder ≠ t) (stmt : Statement) :
    ∃ s', (Database.exec t stmt).run.run Store.answer s = (.error .contention, s') ∧
      s'.table = s.table := by
  by_cases hbusy : s.busyTimeout = 0
  · have hexec : s.exec t stmt = (.settled (.error .contention), s) := by
      simp [Store.exec, hopen, htx, hrows, hholder, hother, hbusy]
    exact ⟨s, Database.run_exec_of_settled hexec, rfl⟩
  · let waiting : Store := { s with lock := s.lock.request t }
    have hexec : s.exec t stmt = (.queued t, waiting) := by
      simp [Store.exec, hopen, htx, hrows, hholder, hother, hbusy, waiting]
    have hholds : waiting.lock.holder = some holder := by simp [waiting, Store.Lock.request, hholder]
    have hresume : waiting.resume t stmt = (.error .contention, waiting.leaveLock t) := by
      have htx' : waiting.transaction? t = some tx := htx
      simp [Store.resume, htx', hholds, hother]
    exact ⟨waiting.leaveLock t, (Database.run_exec_of_queued hexec).trans hresume, rfl⟩

/-- A transfer that meets a held lock fails and leaves the committed rows alone. -/
theorem run_transfer_of_holder {timeout : Nat} {h : History} (hreach : h.Reachable timeout)
    (hopen : h.store.closed = false) (htable : h.store.table = some rows) {holder : Ticket}
    (hholder : h.store.lock.holder = some holder) (r : Transfer) :
    ∃ s', (transfer r).run.run Store.answer h.store = (.error .contention, s') ∧
      s'.table = some rows := by
  let t : Ticket := h.store.nextTicket
  let tx : Store.Transaction := ⟨h.store.version, h.store.table, false⟩
  let begun : Store :=
    { h.store with transactions := h.store.transactions ++ [(t, tx)], nextTicket := t + 1 }
  have hbegin : h.store.begin = (.ok t, begun) := Store.begin_of_open hopen
  have htx : begun.transaction? t = some tx := Store.lookup_fresh hreach.fresh tx
  have hother : holder ≠ t := fun heq ↦ hreach.consistent.guarded.owned t (heq ▸ hholder)
    (hreach.consistent.tracked.unused t (Nat.le_refl t))
  obtain ⟨s', hdebit, htable'⟩ := run_exec_of_holder (s := begun) hopen htx htable hholder hother
    (.debit (.integer r.source) (.integer r.amount))
  have hbody : (move t r).run.run Store.answer begun = (.error .contention, s') := by
    rw [move, Action.run_bind, hdebit]
  refine ⟨s'.endTransaction t, ?_, htable'.trans htable⟩
  rw [transfer, Database.run_transact_of_begin hbegin hbody, Database.run_complete_error]

end Runs

/-- A transfer on its own moves its amount row by row, or fails and leaves the committed rows alone.
While nobody has the lock it succeeds exactly if it is possible. -/
theorem made_or_unchanged {timeout : Nat} {h : History} (hreach : h.Reachable timeout)
    (hopen : h.store.closed = false) {rows : List Row} (htable : h.store.table = some rows)
    (r : Transfer) :
    ∃ result after, (transfer r).run.run Store.answer h.store = (result, after) ∧
      (result = .ok () → ∃ moved, after.table = some moved ∧ r.Made rows moved) ∧
      (∀ e, result = .error e → after.table = some rows) ∧
      (h.store.lock.holder = none → (result = .ok () ↔ r.Possible rows)) := by
  cases hholder : h.store.lock.holder with
  | some holder =>
    obtain ⟨after, hrun, hafter⟩ := run_transfer_of_holder hreach hopen htable hholder r
    exact ⟨_, after, hrun, nofun, fun _ _ ↦ hafter, nofun⟩
  | none =>
    have hgoes := goes_of_atRest (hreach.atRest hopen htable hholder) r
    generalize (transfer r).run.run Store.answer h.store = outcome at hgoes ⊢
    cases hgoes with
    | made hpossible hmade =>
      exact ⟨_, _, rfl, fun _ ↦ ⟨_, rfl, hmade⟩, nofun, fun _ ↦ iff_of_true rfl hpossible⟩
    | refused himpossible =>
      exact ⟨_, _, rfl, nofun, fun _ _ ↦ htable, fun _ ↦ iff_of_false nofun himpossible⟩

/-- Two rows for one account, one for another, and a row without a key. -/
def doubled : List Row :=
  [⟨some 1, 10⟩, ⟨none, 5⟩, ⟨some 2, 0⟩, ⟨some 1, -3⟩]

/-- The source has a row more than the target, so the total shrinks by the amount. -/
theorem made_or_unchanged_doubled :
    ∃ h after, History.stocked doubled = some h ∧ h.store.closed = false ∧
      h.store.table = some doubled ∧
      (transfer ⟨1, 2, 4⟩).run.run Store.answer h.store = (.ok (), after) ∧
      after.table = some [⟨some 1, 6⟩, ⟨none, 5⟩, ⟨some 2, 4⟩, ⟨some 1, -7⟩] ∧
      Transfer.Made ⟨1, 2, 4⟩ doubled [⟨some 1, 6⟩, ⟨none, 5⟩, ⟨some 2, 4⟩, ⟨some 1, -7⟩] := by
  obtain ⟨h, hstocked, hreach, hs⟩ := History.exists_stocked doubled
  have hfree : h.store.lock.holder = none := congrArg Store.Lock.holder hs.lock
  have hdone : (History.stocked doubled).map (fun h ↦
      ((transfer ⟨1, 2, 4⟩).run.run Store.answer h.store).2.table) =
      some (some [⟨some 1, 6⟩, ⟨none, 5⟩, ⟨some 2, 4⟩, ⟨some 1, -7⟩]) := by decide
  obtain ⟨result, after, hresult, hmade, _, hiff⟩ :=
    made_or_unchanged hreach hs.opened hs.table ⟨1, 2, 4⟩
  obtain rfl := (hiff hfree).2 (by decide)
  obtain ⟨moved, hafter, hmoved⟩ := hmade rfl
  have hgiven : after.table = some [⟨some 1, 6⟩, ⟨none, 5⟩, ⟨some 2, 4⟩, ⟨some 1, -7⟩] := by
    rw [hstocked, Option.map_some, hresult] at hdone
    exact Option.some.inj hdone
  obtain rfl := Option.some.inj (hafter.symm.trans hgiven)
  exact ⟨h, after, hstocked, hs.opened, hs.table, hresult, hgiven, hmoved⟩

end Turnstile.Workload.Bank
