import Turnstile.Proofs.Edn.Grammar
import Turnstile.Proofs.Workload.Transfer

/-!
# Balances as data

All balances are told as one map literal.  Read as data, it gives the key and the value of every row, in
the order of the rows.  So a text that tells of a listing of the accounts names each of them once, with
balances that add up to what was shared among them.
-/

namespace Turnstile.Workload.Bank

open Edn (Form Literals)
open Store (Row)

/-- A key as a form. -/
def keyForm : Option Int64 → Form
  | some key => .int key
  | none => .nil

/-- The text gives every account in order, and balances that add up to the shares of the total. -/
def Opening.Told (r : Opening) (text : String) : Prop :=
  ∃ balances : List Int64, balances.length = r.accounts.length ∧
    (balances.map Int64.toInt).sum =
      r.accounts.length * r.totalAmount.toInt.fdiv r.accounts.length ∧
    Edn.read text = .ok (.map ((r.accounts.map Form.int).zip (balances.map Form.int)))

/-! ## Literals -/

theorem literals_renderKey (key : Option Int64) (depth : Nat) :
    Literals depth (renderKey key).toList [keyForm key] := by
  cases key with
  | none => exact .word (.reserved .nil) depth
  | some key => exact .writeInt64 key depth

theorem literals_renderAccount (r : Row) :
    Literals 0 (renderAccount r).toList [keyForm r.key, .int r.value] := by
  have hparts : renderAccount r =
      String.intercalate " " [renderKey r.key, Numeral.writeInt64 r.value] := by
    apply String.toList_inj.1
    simp [renderAccount]
  rw [hparts]
  exact .spaced (.cons (literals_renderKey r.key 0) (.cons (.writeInt64 r.value 0) .nil))

/-- The rows are read back from the map literal, with their keys as forms. -/
theorem read_renderBalances (rows : List Row) :
    Edn.read (renderBalances rows) =
      .ok (.map (rows.map fun r ↦ (keyForm r.key, .int r.value))) :=
  (Literals.map fun r _ ↦ literals_renderAccount r).read (by decide)

/-- A listing of the accounts is told as one. -/
theorem Opening.Listed.told {r : Opening} {rows : List Row} (hlisted : r.Listed rows) :
    r.Told (renderBalances rows) := by
  have hkeys : rows.map (keyForm ∘ Row.key) = r.accounts.map Form.int := by
    calc rows.map (keyForm ∘ Row.key)
      _ = (rows.map Row.key).map keyForm := List.map_map.symm
      _ = (r.accounts.map some).map keyForm := by rw [hlisted.keys]
      _ = r.accounts.map Form.int := List.map_map
  refine ⟨rows.map Row.value, ?_, ?_, ?_⟩
  · rw [List.length_map, ← List.length_map Row.key, hlisted.keys, List.length_map]
  · rw [List.map_map]
    exact hlisted.total
  · rw [read_renderBalances, ← hkeys, List.map_map, List.zip_map']
    rfl

end Turnstile.Workload.Bank
