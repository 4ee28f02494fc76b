import Turnstile.Activity
import Turnstile.Http.Endpoint
import Turnstile.Http.Response
import Turnstile.Membership
import Turnstile.Metrics.Exposition
import Turnstile.Service
import Turnstile.Workload.Append
import Turnstile.Workload.Bank
import Turnstile.Workload.ValueSet

/-!
# Serving requests

A request is routed by its method and path.  Its work runs under a deadline, is then counted with
its outcome, and its result or failure becomes the body of the response.  A request whose body is
too long is answered without any of this; one that has no endpoint is counted apart and its body is
not read.
-/

namespace Turnstile.Http

open Service (ServiceAction onStore onCluster)
open Workload

/-- What a node knows when it serves requests. -/
structure Context where
  /-- The node's name. -/
  node : String
  directory : Membership.Directory
  /-- The size of the configured cluster. -/
  expectedNodes : Nat
  /-- How long the work of a request may take, in milliseconds. -/
  requestTimeout : Nat
  /-- Whether a conflict in account creation is shown instead of answered `nil`. -/
  surfaceInitContention : Bool

/-- The answer of a request that has nothing to tell. -/
def nilReply : String := "nil"

/-- A name between double quotes, as it is. -/
def quotedName (name : String) : String :=
  "\"" ++ name ++ "\""

/-- Names between double quotes in square brackets. -/
def renderNames (names : List String) : String :=
  "[" ++ String.intercalate " " (names.map quotedName) ++ "]"

/-- How the outcome of an account creation is told.  A masked conflict is counted. -/
def reportOpening (surface : Bool) : Bank.OpeningOutcome → ServiceAction String
  | .contended =>
    if surface then throw .contention
    else do
      ExceptT.lift (Service.increment .maskedContention)
      return nilReply
  | _ => return nilReply

/-- Reads an account creation from a body and does it. -/
def createAccounts (surface : Bool) (body : String) : ServiceAction String :=
  match Bank.Opening.parse body with
  | .error e => throw e
  | .ok request => do
    let outcome ← onStore (Bank.openAccounts request)
    reportOpening surface outcome

/-- Reads a transfer from a body and does it. -/
def transfer (body : String) : ServiceAction String :=
  match Bank.Transfer.parse body with
  | .error e => throw e
  | .ok request => do
    onStore (Bank.transfer request)
    return nilReply

/-- The leader's name, empty while nobody leads. -/
def readLeader (d : Membership.Directory) : ServiceAction String := do
  let name ← onCluster (Membership.leader d)
  return quotedName (name.getD "")

/-- The members' names. -/
def readMembers (d : Membership.Directory) : ServiceAction String := do
  let names ← onCluster (Membership.members d)
  return renderNames names

/-- Removes the member named in a body. -/
def removeMember (d : Membership.Directory) (body : String) : ServiceAction String := do
  onCluster (Membership.remove d body)
  return nilReply

/-- Whether the cluster has settled. -/
def checkReadiness (expected : Nat) : ServiceAction String := do
  onCluster (Membership.ready expected)
  return nilReply

/-- The work of a counted endpoint; the others have none. -/
def work (ctx : Context) (body : String) : Endpoint → ServiceAction String
  | .runBatch => onStore (Append.run body)
  | .readBalances => onStore Bank.balances
  | .createAccounts => createAccounts ctx.surfaceInitContention body
  | .transfer => transfer body
  | .readSet => onStore ValueSet.elements
  | .addElement => onStore (ValueSet.add body)
  | .readLeader => readLeader ctx.directory
  | .readMembers => readMembers ctx.directory
  | .removeMember => removeMember ctx.directory body
  | .checkReadiness => checkReadiness ctx.expectedNodes
  | .readHealth => return nilReply
  | .readMetrics => return nilReply

/-- The failure of a result, if it is one. -/
def failure? {α : Type} : Except Error α → Option Error
  | .ok _ => none
  | .error e => some e

/-- Counts a request with its outcome and renders it; without a result the deadline has passed. -/
def settle (name : String) (result : Option (Except Error String)) (elapsed : Duration) :
    Program Service.interface Content := do
  let result := result.getD (.error .deadlineExceeded)
  Service.record name elapsed (failure? result)
  return .plain (Reply.render result)

/-- The content for a request to an endpoint. -/
def serveEndpoint (ctx : Context) (r : Request) (e : Endpoint) :
    Activity Service.interface Content :=
  if e.readsBody ∧ r.bodyLimit < r.body.size then .run (.done .tooLong)
  else
    match e.metricsName with
    | some name => .limited ctx.requestTimeout (work ctx r.text e).run (settle name)
    | none =>
      match e with
      | .readHealth =>
        .run (.call Service.Call.uptime fun (uptime : Nat) ↦ .done (.health ctx.node uptime))
      | _ =>
        .run (.call Service.Call.metrics fun (registry : Metrics.Registry) ↦
          .call Service.Call.uptime fun (uptime : Nat) ↦
            .done (.plain (Metrics.Exposition.render registry uptime)))

/-- The content for a request without an endpoint, which is counted apart. -/
def serveUnknown : Activity Service.interface Content :=
  .run do
    Service.record "unknown" .zero none
    return .badRequest

/-- The content for a request. -/
def serveContent (ctx : Context) (r : Request) : Activity Service.interface Content :=
  let route := Route.of r.method r.path
  let content : Activity Service.interface Content :=
    if maxBodyBytes < r.declaredLength?.getD 0 then .run (.done .declaredTooLong)
    else
      match route with
      | .endpoint e => serveEndpoint ctx r e
      | .headersOnly e => serveEndpoint ctx r e
      | .unknown => serveUnknown
  match route with
  | .headersOnly _ => content.map Content.withoutBody
  | _ => content

/-- The response to a request. -/
def serve (ctx : Context) (r : Request) : Activity Service.interface Response :=
  (serveContent ctx r).map fun content ↦ content.respond r

end Turnstile.Http
