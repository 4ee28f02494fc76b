import Turnstile.Store.Value

/-!
# Statements and queries

A statement changes the rows of the table, a query selects some of them; both see the rows in the
order in which they were inserted.  An update adds an amount to, or takes it from, the value of
every row with a given key, and changes nothing unless all the new values fit their column.
-/

namespace Turnstile.Store

/-- A change of the table. -/
inductive Statement where
  | insert (key value : Value)
  /-- Takes the amount from every row with the key. -/
  | debit (key amount : Value)
  /-- Adds the amount to every row with the key. -/
  | credit (key amount : Value)
deriving DecidableEq, Repr

/-- A selection of rows. -/
inductive Query where
  | byKey (key : Value)
  | all
deriving DecidableEq, Repr

/-- A row after an update by `delta` of the rows with `key`, if its value fits. -/
def Row.adjust? (key : Int64) (delta : Int) (r : Row) : Option Row :=
  if r.key = some key then
    (Numeral.fit? (r.value.toInt + delta)).map fun value ↦ { r with value }
  else some r

/-- Maps every row, or nothing if one cannot be. -/
def adjustOnto (key : Int64) (delta : Int) (adjusted : List Row) : List Row → Option (List Row)
  | [] => some adjusted.reverse
  | r :: rest =>
    match r.adjust? key delta with
    | some r => adjustOnto key delta (r :: adjusted) rest
    | none => none

/-- The rows after an update by `delta`, and how many have the key. -/
def adjustRows (key : Int64) (delta : Int) (rows : List Row) : Except Fault (List Row × Nat) :=
  match adjustOnto key delta [] rows with
  | some adjusted => .ok (adjusted, rows.countP fun r ↦ r.key = some key)
  | none => .error .overflow

/-- An update of the rows with a key by `sign` times an amount.  A null key matches no row; the
amount itself must have a 64-bit opposite when it is to be taken away. -/
def update (key amount : Value) (sign : Int) (rows : List Row) : Except Fault (List Row × Nat) :=
  match key.column with
  | .error f => .error f
  | .ok key =>
    match amount.requiredColumn with
    | .error f => .error f
    | .ok amount =>
      match key with
      | none => .ok (rows, 0)
      | some key =>
        match Numeral.fit? (amount.toInt * sign) with
        | none => .error .overflow
        | some delta => adjustRows key delta.toInt rows

/-- The rows after a statement, and how many it affects. -/
def Statement.apply (s : Statement) (rows : List Row) : Except Fault (List Row × Nat) :=
  match s with
  | insert key value =>
    match key.column with
    | .error f => .error f
    | .ok key =>
      match value.requiredColumn with
      | .error f => .error f
      | .ok value => .ok (rows ++ [⟨key, value⟩], 1)
  | debit key amount => update key amount (-1) rows
  | credit key amount => update key amount 1 rows

/-- The rows that a query selects.  No row has a null key in common with a query. -/
def Query.select (q : Query) (rows : List Row) : Except Fault (List Row) :=
  match q with
  | all => .ok rows
  | byKey key =>
    match key.column with
    | .error f => .error f
    | .ok none => .ok []
    | .ok (some key) => .ok (rows.filter fun r ↦ r.key = some key)

end Turnstile.Store
