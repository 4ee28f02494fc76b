import Turnstile.Http.Request

/-!
# Endpoints

The pairs of path and method that the gate serves.  Paths are compared as they are written, methods
with regard to case.
-/

namespace Turnstile.Http

/-- What a request can be for. -/
inductive Endpoint where
  | runBatch
  | readBalances
  | createAccounts
  | transfer
  | readSet
  | addElement
  | readLeader
  | readMembers
  | removeMember
  | checkReadiness
  | readHealth
  | readMetrics
deriving DecidableEq, Repr

namespace Endpoint

/-- The endpoint that a path has for GET. -/
def ofGet (path : String) : Option Endpoint :=
  match path with
  | "/bank" => some readBalances
  | "/set" => some readSet
  | "/leader" => some readLeader
  | "/members" => some readMembers
  | "/ready" => some checkReadiness
  | "/health" => some readHealth
  | "/metrics" => some readMetrics
  | _ => none

/-- The endpoint that a path has for a method other than GET. -/
def ofChange (method path : String) : Option Endpoint :=
  match method, path with
  | "POST", "/append" => some runBatch
  | "PUT", "/bank" => some createAccounts
  | "POST", "/bank" => some transfer
  | "POST", "/set" => some addElement
  | "DELETE", "/members" => some removeMember
  | _, _ => none

/-- The name under which requests are counted, for the endpoints that count them. -/
def metricsName : Endpoint → Option String
  | runBatch => some "append"
  | readBalances => some "bank"
  | createAccounts => some "bank"
  | transfer => some "bank"
  | readSet => some "set"
  | addElement => some "set"
  | readLeader => some "leader"
  | readMembers => some "members"
  | removeMember => some "members"
  | checkReadiness => some "ready"
  | readHealth => none
  | readMetrics => none

/-- Whether the endpoint reads the body of a request. -/
def readsBody : Endpoint → Bool
  | runBatch => true
  | createAccounts => true
  | transfer => true
  | addElement => true
  | removeMember => true
  | _ => false

end Endpoint

/-- Where a request goes. -/
inductive Route where
  | endpoint (e : Endpoint)
  /-- As for GET, but the response has no body. -/
  | headersOnly (e : Endpoint)
  | unknown
deriving DecidableEq, Repr

/-- The route of a method and a path. -/
def Route.of (method path : String) : Route :=
  match method with
  | "GET" => (Endpoint.ofGet path).elim unknown endpoint
  | "HEAD" => (Endpoint.ofGet path).elim unknown headersOnly
  | method => (Endpoint.ofChange method path).elim unknown endpoint

end Turnstile.Http
