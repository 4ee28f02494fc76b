import Mathlib.Data.List.Count
import Mathlib.Data.List.Nodup
import Mathlib.Tactic.Linarith
import Turnstile.Proofs.Store.Statement
import Turnstile.Workload.Bank

/-!
# Accounts and transfers

Accounts are listed when each of them has one row, in the order of the request that created them, and
their values add up to what was shared among them.  A creation on an empty table makes such a listing
and a transfer between accounts keeps it; between its two statements a transfer does not.
-/

namespace Turnstile.Workload.Bank

open Store (Row Statement count replay total)

/-- The statements of an account creation. -/
def Opening.statements (r : Opening) (balance : Int64) : List Statement :=
  r.accounts.map fun id ↦ .insert (.integer id) (.integer balance)

/-- The statements of a transfer. -/
def Transfer.statements (r : Transfer) : List Statement :=
  [.debit (.integer r.source) (.integer r.amount), .credit (.integer r.target) (.integer r.amount)]

/-- One row for each account, in order, with values that add up to the shares of the total. -/
structure Opening.Listed (r : Opening) (rows : List Row) : Prop where
  keys : rows.map Row.key = r.accounts.map some
  total : total rows = r.accounts.length * r.totalAmount.toInt.fdiv r.accounts.length

variable {r : Opening} {rows after : List Row} {balance : Int64}

/-! ## Creation -/

theorem replay_insert (ids : List Int64) (balance : Int64) (rows : List Row) :
    replay (ids.map fun id ↦ .insert (.integer id) (.integer balance)) rows =
      some (rows ++ ids.map fun id ↦ ⟨some id, balance⟩) := by
  induction ids generalizing rows with
  | nil => rw [List.map_nil, List.map_nil, List.append_nil, Store.replay_nil]
  | cons id rest ih =>
    rw [List.map_cons, List.map_cons]
    have happly : Statement.apply (.insert (.integer id) (.integer balance)) rows =
        .ok (rows ++ [⟨some id, balance⟩], 1) := rfl
    simp only [replay, happly]
    rw [ih, List.append_assoc, List.singleton_append]

theorem Opening.accounts_ne_nil (hbalance : r.balance? = some balance) : r.accounts ≠ [] := by
  intro hnil
  unfold Opening.balance? at hbalance
  rw [hnil] at hbalance
  simp at hbalance

/-- A request that names no account is refused. -/
theorem Opening.accounts_ne_nil_of_form {f : Edn.Form} (hform : Opening.ofForm f = .ok r) :
    r.accounts ≠ [] := by
  unfold Opening.ofForm at hform
  cases haccounts : (f.require "accounts" >>= Edn.Form.asSeq >>= collectInts []).mapError
    Edn.Form.Mismatch.error with
  | error e =>
    rw [haccounts] at hform
    cases hform
  | ok accounts =>
    rw [haccounts] at hform
    cases accounts with
    | nil => cases hform
    | cons id rest =>
      cases htotal : (requireInt f "total-amount").mapError Edn.Form.Mismatch.error with
      | error e =>
        rw [htotal] at hform
        cases hform
      | ok total =>
        rw [htotal] at hform
        obtain rfl := Except.ok.inj hform
        exact List.cons_ne_nil id rest

theorem Opening.accounts_ne_nil_of_parse {body : String}
    (hparse : Opening.parse body = .ok r) : r.accounts ≠ [] := by
  unfold Opening.parse at hparse
  cases hread : Edn.read body with
  | error e =>
    rw [hread] at hparse
    cases hparse
  | ok f =>
    rw [hread] at hparse
    exact Opening.accounts_ne_nil_of_form hparse

/-- The share is no further from zero than the total, so it fits its column. -/
theorem Opening.toInt_balance (hbalance : r.balance? = some balance) :
    balance.toInt = r.totalAmount.toInt.fdiv r.accounts.length := by
  have hpositive : 0 < r.accounts.length :=
    List.length_pos_iff.2 (Opening.accounts_ne_nil hbalance)
  have hn : (1 : Int) ≤ r.accounts.length := by omega
  have hlower := Int64.le_toInt r.totalAmount
  have hupper := Int64.toInt_lt r.totalAmount
  unfold Opening.balance? at hbalance
  split at hbalance
  case isTrue => simp at hbalance
  case isFalse =>
    rw [← Option.some.inj hbalance, Int.fdiv_eq_ediv_of_nonneg _ (by omega)]
    apply Int64.toInt_ofInt_of_le
    · apply Int.le_ediv_of_mul_le (by omega)
      nlinarith
    · apply Int.ediv_lt_of_lt_mul (by omega)
      nlinarith

theorem Opening.listed_statements (hbalance : r.balance? = some balance) :
    ∃ rows, replay (r.statements balance) [] = some rows ∧ r.Listed rows := by
  refine ⟨_, replay_insert r.accounts balance [], ?_⟩
  rw [List.nil_append]
  constructor
  case keys =>
    rw [List.map_map]
    rfl
  case total =>
    have hsum : total (r.accounts.map fun id ↦ ⟨some id, balance⟩) =
        r.accounts.length * balance.toInt := by
      unfold Store.total
      rw [List.map_map]
      simp [Function.comp_def]
    rw [hsum, Opening.toInt_balance hbalance]

/-! ## Transfers -/

/-- There are as many rows of an account as the request mentions it. -/
theorem Opening.count_of_keys (hkeys : rows.map Row.key = r.accounts.map some) (id : Int64) :
    count id rows = r.accounts.count id := by
  rw [Store.count_eq, hkeys,
    List.count_map_of_injective r.accounts some (Option.some_injective Int64) id]

theorem Opening.Listed.count_eq_one (hlisted : r.Listed rows) (hnodup : r.accounts.Nodup)
    {id : Int64} (hid : id ∈ r.accounts) : count id rows = 1 := by
  rw [Opening.count_of_keys hlisted.keys]
  exact List.count_eq_one_of_mem hnodup hid

/-- A transfer keeps all keys, and the total grows by its amount for each row that the target has more
than the source. -/
theorem replay_transfer {move : Transfer} (hreplay : replay move.statements rows = some after) :
    after.map Row.key = rows.map Row.key ∧
      total after = total rows +
        move.amount.toInt * (count move.target rows - count move.source rows) := by
  unfold Transfer.statements at hreplay
  simp only [replay, Statement.apply] at hreplay
  cases hdebit : Store.update (.integer move.source) (.integer move.amount) (-1) rows with
  | error f =>
    rw [hdebit] at hreplay
    cases hreplay
  | ok debited =>
    obtain ⟨taken, n⟩ := debited
    rw [hdebit] at hreplay
    simp only at hreplay
    cases hcredit : Store.update (.integer move.target) (.integer move.amount) 1 taken with
    | error f =>
      rw [hcredit] at hreplay
      cases hreplay
    | ok credited =>
      obtain ⟨given, m⟩ := credited
      rw [hcredit] at hreplay
      obtain rfl : given = after := Option.some.inj hreplay
      obtain ⟨hkeysTaken, htotalTaken⟩ := Store.update_eq_ok hdebit
      obtain ⟨hkeys, htotal⟩ := Store.update_eq_ok hcredit
      refine ⟨hkeys.trans hkeysTaken, ?_⟩
      rw [htotal, htotalTaken, Store.count_congr hkeysTaken]
      ring

/-- The credit gives back what the debit has taken, from whichever accounts. -/
theorem Opening.Listed.transfer {move : Transfer} (hlisted : r.Listed rows)
    (hnodup : r.accounts.Nodup) (hsource : move.source ∈ r.accounts)
    (htarget : move.target ∈ r.accounts) (hreplay : replay move.statements rows = some after) :
    r.Listed after := by
  obtain ⟨hkeys, htotal⟩ := replay_transfer hreplay
  constructor
  case keys => rw [hkeys, hlisted.keys]
  case total =>
    rw [htotal, hlisted.count_eq_one hnodup hsource, hlisted.count_eq_one hnodup htarget, sub_self,
      mul_zero, add_zero, hlisted.total]

end Turnstile.Workload.Bank
