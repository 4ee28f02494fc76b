import Turnstile.Database

/-!
# The set workload

Elements are rows with a null key.  An element is added once per request and echoed without the
white space around it; a read lists the values of all rows.
-/

namespace Turnstile.Workload.ValueSet

open Database (DbAction)
open Store (Row)

/-- Adds one element. -/
def add (value : String) : DbAction String := do
  let value := String.ofList (Text.trim value.toList)
  let _ ← Database.execAlone (.insert .null (.text value))
  return value

/-- Values in square brackets. -/
def renderElements (rows : List Row) : String :=
  "[" ++ String.intercalate " " (rows.map fun r ↦ Numeral.writeInt64 r.value) ++ "]"

/-- All elements in the order in which they were added. -/
def elements : DbAction String := do
  let rows ← Database.queryAlone .all
  return renderElements rows

end Turnstile.Workload.ValueSet
