import Turnstile.Batch
import Turnstile.Database

/-!
# The append workload

A batch runs in one transaction and is answered by one rendering per operation.  An append echoes
its key and value as they were written; a read echoes its key and lists the values of the rows that
have it.
-/

namespace Turnstile.Workload.Append

open Batch (Operation)
open Database (DbAction)
open Store (Row Ticket)

/-- Values in square brackets. -/
def renderValues (rows : List Row) : String :=
  "[" ++ String.intercalate " " (rows.map fun r ↦ Numeral.writeInt64 r.value) ++ "]"

/-- The answer to a read of `key` that finds `rows`. -/
def renderRead (key : String) (rows : List Row) : String :=
  "[:r " ++ key ++ " " ++ renderValues rows ++ "]"

/-- The answer to an append. -/
def renderAppend (key value : String) : String :=
  "[:append " ++ key ++ " " ++ value ++ "]"

/-- The answers in order, as one text. -/
def renderBatch (answers : List String) : String :=
  "[" ++ String.intercalate " " answers ++ "]"

/-- Runs one operation. -/
def runOperation (t : Ticket) : Operation → DbAction String
  | .read key => do
    let rows ← Database.query t (.byKey (.text key))
    return renderRead key rows
  | .append key value => do
    let _ ← Database.exec t (.insert (.text key) (.text value))
    return renderAppend key value

/-- Runs operations in order, the answers before them being kept in reverse. -/
def runOperations (t : Ticket) (answers : List String) : List Operation → DbAction String
  | [] => return renderBatch answers.reverse
  | operation :: rest => do
    let answer ← runOperation t operation
    runOperations t (answer :: answers) rest

/-- Runs a batch in one transaction. -/
def execute (operations : List Operation) : DbAction String :=
  Database.transact fun t ↦ runOperations t [] operations

/-- Reads a batch and runs it. -/
def run (document : String) : DbAction String :=
  match Batch.parse document with
  | .ok operations => execute operations
  | .error e => throw e

end Turnstile.Workload.Append
