import Turnstile.Text.Numeral

/-!
# Failures

Every operation of the gate fails with one of these causes.  A failure has a kind, which metrics
count by, and a message, which clients read; a reply that reports one starts with `Error: `.
-/

namespace Turnstile

/-- Why an operation failed. -/
inductive Error where
  | io (reason : String)
  | malformedBatch (reason : String)
  | unknownOperation (name : String)
  | malformedRequest (reason : String)
  | storage (reason : String)
  /-- Another writer holds the lock, or has committed since the snapshot was taken. -/
  | contention
  | timeout (reason : String)
  | unresolvedNode (address reason : String)
  | nodeNotFound (name : String)
  | clusterIncomplete (expected actual : Nat)
  | nodeNotVoter (address role : String)
  | http (reason : String)
  | invalidConfig (reason : String)
  | internal (reason : String)
  | other (reason : String)
deriving DecidableEq, Repr, Inhabited

namespace Error

/-- The label under which failures of this cause are counted. -/
def kind : Error → String
  | io _ => "io"
  | malformedBatch _ => "malformed_batch"
  | unknownOperation _ => "unknown_operation"
  | malformedRequest _ => "malformed_request"
  | storage _ => "storage"
  | contention => "contention"
  | timeout _ => "timeout"
  | unresolvedNode _ _ => "unresolved_node"
  | nodeNotFound _ => "node_not_found"
  | clusterIncomplete _ _ => "cluster_incomplete"
  | nodeNotVoter _ _ => "node_not_voter"
  | http _ => "http"
  | invalidConfig _ => "invalid_config"
  | internal _ => "internal"
  | other _ => "other"

/-- The text that describes the failure. -/
def message : Error → String
  | io reason => "I/O error: " ++ reason
  | malformedBatch reason => "malformed batch: " ++ reason
  | unknownOperation name => "unknown operation: " ++ name
  | malformedRequest reason => "malformed request: " ++ reason
  | storage reason => reason
  | contention => "database is locked"
  | timeout reason => "operation timeout: " ++ reason
  | unresolvedNode address reason => "unresolved node " ++ address ++ ": " ++ reason
  | nodeNotFound name => "no node named " ++ name
  | clusterIncomplete expected actual =>
    "cluster has still only " ++ Numeral.write actual ++ " nodes (expected " ++
      Numeral.write expected ++ ")"
  | nodeNotVoter address role => "node " ++ address ++ " is still " ++ role
  | http reason => "HTTP error: " ++ reason
  | invalidConfig reason => "Invalid configuration: " ++ reason
  | internal reason => "Internal error: " ++ reason
  | other reason => reason

/-- Whether trying again later can succeed. -/
def isRetryable : Error → Bool
  | contention => true
  | timeout _ => true
  | _ => false

/-- Whether the failure is a write conflict. -/
def isContention : Error → Bool
  | contention => true
  | _ => false

/-- A request that ran past its deadline. -/
def deadlineExceeded : Error :=
  timeout "deadline exceeded"

/-- A failure that is known by a chain of descriptions, the outermost first: only that one is
shown. -/
def ofChain (outermost : String) (_causes : List String) : Error :=
  other outermost

end Error

end Turnstile
