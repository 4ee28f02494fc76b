import Mathlib.Algebra.BigOperators.Group.List.Basic
import Mathlib.Data.List.Forall2
import Mathlib.Tactic.Ring
import Turnstile.Proofs.Store.Replay
import Turnstile.Proofs.Text.Numeral

/-!
# What statements do to the rows

An insertion adds one row at the end.  An update keeps the keys and their order, and adds its amount
once for every row with its key; where it succeeds no value leaves its range, so sums over the rows
are sums of exact integers.  A query changes nothing and finds the rows that it asks for.
-/

namespace Turnstile

namespace Store

open Numeral (Denotes)

/-! ## Parameters -/

namespace Value

theorem column_integer (n : Int64) : (integer n).column = .ok (some n) := rfl

theorem requiredColumn_integer (n : Int64) : (integer n).requiredColumn = .ok n := rfl

theorem column_text_eq_ok {s : String} {v : Int64} :
    (text s).column = .ok (some v) ↔ Denotes (Text.trim s.toList) v.toInt := by
  rw [← Numeral.readInt64_eq_some, column]
  cases Numeral.readInt64 (Text.trim s.toList) <;> simp

theorem requiredColumn_eq_ok {a : Value} {v : Int64} : a.requiredColumn = .ok v ↔ a.column = .ok (some v) := by
  unfold requiredColumn
  split
  case h_1 hcolumn | h_2 hcolumn | h_3 hcolumn => simp [hcolumn]

end Value

/-! ## Selections -/

/-- A query asks for a row: for every row, or for those with its key.  No row has a null key. -/
inductive Query.Asks : Query → Row → Prop
  | all (r : Row) : Asks .all r
  | integer (key v : Int64) : Asks (.byKey (.integer key)) ⟨some key, v⟩
  | text {s : String} {key : Int64} (hdenotes : Denotes (Text.trim s.toList) key.toInt) (v : Int64) :
      Asks (.byKey (.text s)) ⟨some key, v⟩

/-- The rows that a query asks for, in their order. -/
def Query.Selects (q : Query) (rows selected : List Row) : Prop :=
  ∃ asked : Row → Bool, (∀ r, asked r ↔ q.Asks r) ∧ selected = rows.filter asked

theorem Query.asks_byKey {key : Value} {r : Row} :
    (byKey key).Asks r ↔ ∃ k, key.column = .ok (some k) ∧ r.key = some k := by
  constructor
  · intro hasks
    cases hasks with
    | integer k => exact ⟨k, rfl, rfl⟩
    | text hdenotes => exact ⟨_, Value.column_text_eq_ok.2 hdenotes, rfl⟩
  · obtain ⟨key', v⟩ := r
    rintro ⟨k, hcolumn, rfl⟩
    cases key with
    | null => cases hcolumn
    | integer n =>
      obtain rfl : n = k := Option.some.inj (Except.ok.inj hcolumn)
      exact .integer n v
    | text s => exact .text (Value.column_text_eq_ok.1 hcolumn) v

theorem Query.selects_of_select {q : Query} {rows selected : List Row}
    (hselect : q.select rows = .ok selected) : q.Selects rows selected := by
  cases q with
  | all =>
    obtain rfl : rows = selected := Except.ok.inj hselect
    exact ⟨fun _ ↦ true, fun r ↦ ⟨fun _ ↦ .all r, fun _ ↦ rfl⟩, by simp⟩
  | byKey key =>
    simp only [select] at hselect
    split at hselect
    case h_1 => cases hselect
    case h_2 hcolumn =>
      obtain rfl : [] = selected := Except.ok.inj hselect
      refine ⟨fun _ ↦ false, fun r ↦ ?_, by simp⟩
      simp [asks_byKey, hcolumn]
    case h_3 k hcolumn =>
      refine ⟨fun r ↦ r.key = some k, fun r ↦ ?_, (Except.ok.inj hselect).symm⟩
      simp [asks_byKey, hcolumn]

/-! ## Insertions -/

/-- The row that a statement inserts. -/
def Statement.row? : Statement → Option Row
  | insert key value =>
    match key.column, value.requiredColumn with
    | .ok key, .ok value => some ⟨key, value⟩
    | _, _ => none
  | debit _ _ => none
  | credit _ _ => none

/-- Whether a statement is an insertion. -/
def Statement.inserts : Statement → Bool
  | insert _ _ => true
  | debit _ _ => false
  | credit _ _ => false

theorem apply_of_inserts {stmt : Statement} {rows after : List Row} {n : Nat}
    (hinserts : stmt.inserts) (happly : stmt.apply rows = .ok (after, n)) :
    ∃ row, stmt.row? = some row ∧ after = rows ++ [row] := by
  cases stmt with
  | insert key value =>
    simp only [Statement.apply] at happly
    simp only [Statement.row?]
    cases hkey : key.column with
    | error f =>
      rw [hkey] at happly
      cases happly
    | ok key =>
      rw [hkey] at happly
      cases hvalue : value.requiredColumn with
      | error f =>
        rw [hvalue] at happly
        cases happly
      | ok value =>
        rw [hvalue] at happly
        obtain ⟨rfl, _⟩ := Prod.mk.inj (Except.ok.inj happly)
        exact ⟨_, rfl, rfl⟩
  | debit => exact absurd hinserts Bool.false_ne_true
  | credit => exact absurd hinserts Bool.false_ne_true

/-- Insertions add their rows at the end, in order. -/
theorem replay_of_inserts {stmts : List Statement} {rows after : List Row}
    (hinserts : ∀ stmt ∈ stmts, stmt.inserts) (hreplay : replay stmts rows = some after) :
    after = rows ++ stmts.filterMap Statement.row? := by
  induction stmts generalizing rows with
  | nil =>
    rw [List.filterMap_nil, List.append_nil]
    exact (Option.some.inj hreplay).symm
  | cons stmt rest ih =>
    unfold replay at hreplay
    cases happly : stmt.apply rows with
    | error f =>
      rw [happly] at hreplay
      cases hreplay
    | ok result =>
      rw [happly] at hreplay
      obtain ⟨row, hrow, hmiddle⟩ := apply_of_inserts (hinserts stmt List.mem_cons_self) happly
      have hrest := ih (fun stmt' hmem ↦ hinserts stmt' (List.mem_cons_of_mem stmt hmem)) hreplay
      calc after
        _ = (rows ++ [row]) ++ rest.filterMap Statement.row? := by rw [hrest, hmiddle]
        _ = rows ++ row :: rest.filterMap Statement.row? := by simp
        _ = rows ++ (stmt :: rest).filterMap Statement.row? := by
          rw [List.filterMap_cons_some hrow]

/-! ## Updates -/

/-- The sum of all values, as an exact integer. -/
def total (rows : List Row) : Int :=
  (rows.map fun r ↦ r.value.toInt).sum

/-- How many rows have a key. -/
def count (key : Int64) (rows : List Row) : Nat :=
  rows.countP fun r ↦ r.key = some key

variable {key amount : Int64} {delta sign : Int} {r r' : Row} {rows after : List Row} {n : Nat}

theorem total_cons (r : Row) (rows : List Row) : total (r :: rows) = r.value.toInt + total rows :=
  List.sum_cons

/-- The rows with a key are found by the keys alone. -/
theorem count_eq (key : Int64) (rows : List Row) :
    count key rows = (rows.map Row.key).count (some key) := by
  unfold count List.count
  rw [List.countP_map]
  apply List.countP_congr
  intro r _
  simp

theorem count_congr (hkeys : after.map Row.key = rows.map Row.key) :
    count key after = count key rows := by
  rw [count_eq, count_eq, hkeys]

/-- The row has the key that it had, and has moved by `delta` if that is the key. -/
structure Row.Moves (key : Int64) (delta : Int) (r r' : Row) : Prop where
  sameKey : r'.key = r.key
  value : r'.value.toInt = r.value.toInt + if r.key = some key then delta else 0

/-- Every value with the key stays in its range when `delta` is added. -/
def Room (key : Int64) (delta : Int) (rows : List Row) : Prop :=
  ∀ r ∈ rows, r.key = some key → Numeral.Fits (r.value.toInt + delta)

instance (key : Int64) (delta : Int) (rows : List Row) : Decidable (Room key delta rows) :=
  inferInstanceAs (Decidable (∀ r ∈ rows, _))

theorem room_cons : Room key delta (r :: rows) ↔
    (r.key = some key → Numeral.Fits (r.value.toInt + delta)) ∧ Room key delta rows :=
  List.forall_mem_cons

theorem Row.moves_of_adjust? (hadjust : r.adjust? key delta = some r') : r.Moves key delta r' := by
  unfold Row.adjust? at hadjust
  split at hadjust
  case isTrue hkey =>
    obtain ⟨value, hfit, rfl⟩ := Option.map_eq_some_iff.1 hadjust
    refine ⟨rfl, ?_⟩
    rw [if_pos hkey]
    exact Numeral.toInt_of_fit? hfit
  case isFalse hkey =>
    obtain rfl := Option.some.inj hadjust
    refine ⟨rfl, ?_⟩
    rw [if_neg hkey, Int.add_zero]

theorem Row.isSome_adjust? : (r.adjust? key delta).isSome ↔
    (r.key = some key → Numeral.Fits (r.value.toInt + delta)) := by
  unfold Row.adjust?
  split
  case isTrue hkey =>
    rw [Option.isSome_map, Numeral.isSome_fit?]
    exact ⟨fun hfits _ ↦ hfits, fun hfits ↦ hfits hkey⟩
  case isFalse hkey => exact ⟨fun _ h ↦ absurd h hkey, fun _ ↦ rfl⟩

/-- Every row has moved, in place. -/
theorem adjustOnto_rows {adjusted : List Row}
    (hadjust : adjustOnto key delta adjusted rows = some after) :
    ∃ tail, after = adjusted.reverse ++ tail ∧ List.Forall₂ (Row.Moves key delta) rows tail := by
  induction rows generalizing adjusted with
  | nil =>
    refine ⟨[], ?_, .nil⟩
    rw [List.append_nil]
    exact (Option.some.inj hadjust).symm
  | cons r rest ih =>
    unfold adjustOnto at hadjust
    cases hrow : r.adjust? key delta with
    | none =>
      rw [hrow] at hadjust
      simp at hadjust
    | some r' =>
      rw [hrow] at hadjust
      obtain ⟨tail, hafter, hmoves⟩ := ih hadjust
      refine ⟨r' :: tail, ?_, .cons (Row.moves_of_adjust? hrow) hmoves⟩
      rw [hafter, List.reverse_cons, List.append_assoc]
      rfl

theorem isSome_adjustOnto (key : Int64) (delta : Int) (rows adjusted : List Row) :
    (adjustOnto key delta adjusted rows).isSome ↔ Room key delta rows := by
  induction rows generalizing adjusted with
  | nil => exact ⟨fun _ ↦ List.forall_mem_nil _, fun _ ↦ rfl⟩
  | cons r rest ih =>
    rw [room_cons, ← Row.isSome_adjust?]
    unfold adjustOnto
    cases r.adjust? key delta with
    | none => simp
    | some r' => simpa using ih (r' :: adjusted)

section Moves

variable (hmoves : List.Forall₂ (Row.Moves key delta) rows after)

include hmoves

theorem keys_of_moves : after.map Row.key = rows.map Row.key := by
  induction hmoves with
  | nil => rfl
  | cons hrow _ ih => rw [List.map_cons, List.map_cons, hrow.sameKey, ih]

theorem total_of_moves : total after = total rows + delta * count key rows := by
  induction hmoves with
  | nil => simp [total, count]
  | @cons r r' rest tail hrow _ ih =>
    have hcount : (count key (r :: rest) : Int) =
        count key rest + if r.key = some key then 1 else 0 := by
      unfold count
      rw [List.countP_cons]
      by_cases hkey : r.key = some key <;> simp [hkey]
    calc total (r' :: tail)
      _ = r'.value.toInt + total tail := total_cons r' tail
      _ = r.value.toInt + (if r.key = some key then delta else 0) +
          (total rest + delta * count key rest) := by rw [hrow.value, ih]
      _ = total (r :: rest) + delta * count key (r :: rest) := by
        rw [total_cons, hcount]
        split <;> ring

end Moves

/-- How an update of the rows with a key by `delta` can go. -/
inductive Updates (key : Int64) (delta : Int) (rows : List Row) :
    Except Fault (List Row × Nat) → Prop where
  | done {after : List Row} (hfits : Numeral.Fits delta) (hroom : Room key delta rows)
      (hmoves : List.Forall₂ (Row.Moves key delta) rows after) :
      Updates key delta rows (.ok (after, count key rows))
  | overflow (hout : ¬ (Numeral.Fits delta ∧ Room key delta rows)) :
      Updates key delta rows (.error .overflow)

/-- An update succeeds exactly if its amount and all new values fit. -/
theorem updates (key amount : Int64) (sign : Int) (rows : List Row) :
    Updates key (amount.toInt * sign) rows (update (.integer key) (.integer amount) sign rows) := by
  unfold update
  simp only [Value.column, Value.requiredColumn]
  have hdelta := Numeral.isSome_fit? (n := amount.toInt * sign)
  cases hfit : Numeral.fit? (amount.toInt * sign) with
  | none =>
    rw [hfit] at hdelta
    exact .overflow fun h ↦ absurd (hdelta.2 h.1) Bool.false_ne_true
  | some delta =>
    rw [hfit] at hdelta
    rw [← Numeral.toInt_of_fit? hfit] at hdelta ⊢
    simp only [adjustRows]
    have hroom := isSome_adjustOnto key delta.toInt rows []
    cases hadjust : adjustOnto key delta.toInt [] rows with
    | none =>
      rw [hadjust] at hroom
      exact .overflow fun h ↦ absurd (hroom.2 h.2) Bool.false_ne_true
    | some adjusted =>
      rw [hadjust] at hroom
      obtain ⟨tail, rfl, hmoves⟩ := adjustOnto_rows hadjust
      exact .done (hdelta.1 rfl) (hroom.1 rfl) hmoves

/-- An update of the rows with a key keeps all keys, and adds its amount for each of these rows. -/
theorem update_eq_ok
    (hupdate : update (.integer key) (.integer amount) sign rows = .ok (after, n)) :
    after.map Row.key = rows.map Row.key ∧
      total after = total rows + amount.toInt * sign * count key rows := by
  have hupdates := updates key amount sign rows
  rw [hupdate] at hupdates
  cases hupdates with
  | done _ _ hmoves => exact ⟨keys_of_moves hmoves, total_of_moves hmoves⟩

end Store

end Turnstile
