import Turnstile.Error
import Turnstile.Text.Blank
import Turnstile.Text.Numeral
import Turnstile.Text.Quoted

/-!
# Values and rows

The store holds one table, `map`, of rows with a key and a value.  Both columns are 64-bit integers;
a key may be null.  A parameter may also be a text, which must then be an integer numeral, with
white space allowed around it.
-/

namespace Turnstile.Store

/-- Why a statement, query or transaction is refused, conflicts apart. -/
inductive Fault where
  | closed
  | missingTable
  | mismatch (text : String)
  | missingValue
  | overflow
  /-- The transaction has been committed or rolled back. -/
  | ended
deriving DecidableEq, Repr

/-- The text that describes the fault. -/
def Fault.message : Fault → String
  | closed => "database is closed"
  | missingTable => "no such table: map"
  | mismatch text => "datatype mismatch: " ++ Text.quoted text
  | missingValue => "NOT NULL constraint failed: map.value"
  | overflow => "integer overflow"
  | ended => "transaction has ended"

/-- The fault as a failure. -/
def Fault.error (f : Fault) : Error :=
  .storage f.message

/-- A parameter of a statement or query. -/
inductive Value where
  | null
  | integer (n : Int64)
  | text (s : String)
deriving DecidableEq, Repr

namespace Value

/-- The column value of a parameter, nothing for null. -/
def column : Value → Except Fault (Option Int64)
  | null => .ok none
  | integer n => .ok (some n)
  | text s =>
    match Numeral.readInt64 (Text.trim s.toList) with
    | some n => .ok (some n)
    | none => .error (.mismatch s)

/-- The column value of a parameter that must not be null. -/
def requiredColumn (v : Value) : Except Fault Int64 :=
  match v.column with
  | .ok (some n) => .ok n
  | .ok none => .error .missingValue
  | .error f => .error f

end Value

/-- A row of the table. -/
structure Row where
  key : Option Int64
  value : Int64
deriving DecidableEq, Repr

end Turnstile.Store
