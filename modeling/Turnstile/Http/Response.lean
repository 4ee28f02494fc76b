import Turnstile.Http.Request
import Turnstile.Release
import Turnstile.Reply
import Turnstile.Text.JsonString

/-!
# Responses

Failures are told by the body of a response with status 200.  Only a body that is too long has a
status of its own.  Every response carries the id that the client gave the request, or a fresh one.
-/

namespace Turnstile.Http

/-- The id of a response. -/
inductive RequestId where
  | given (id : String)
  /-- An id that no other response has. -/
  | fresh
deriving DecidableEq, Repr

/-- An HTTP response. -/
structure Response where
  status : Nat
  contentType : String
  requestId : RequestId
  body : String
deriving DecidableEq, Repr

/-- Status, type and body of a response, before it is given an id. -/
structure Content where
  status : Nat
  contentType : String
  body : String
deriving DecidableEq, Repr

namespace Content

/-- A plain text. -/
def plain (body : String) : Content :=
  ⟨200, "text/plain; charset=utf-8", body⟩

/-- A JSON document. -/
def json (body : String) : Content :=
  ⟨200, "application/json", body⟩

/-- A body that says it is too long. -/
def declaredTooLong : Content :=
  { plain "length limit exceeded" with status := 413 }

/-- A body that turns out to be too long. -/
def tooLong : Content :=
  { plain "Failed to buffer the request body: length limit exceeded" with status := 413 }

/-- The answer to a path and method that no endpoint has. -/
def badRequest : Content :=
  plain Reply.badRequest

/-- The content without its body. -/
def withoutBody (c : Content) : Content :=
  { c with body := "" }

/-- The state of a node, as a JSON object. -/
def health (node : String) (uptime : Nat) : Content :=
  json ("\x7b\"node\":" ++ Text.jsonString node ++
    ",\"status\":\"healthy\",\"uptime_seconds\":" ++ Numeral.write uptime ++
    ",\"version\":" ++ Text.jsonString Release.version ++ "\x7d")

/-- The response to a request. -/
def respond (c : Content) (r : Request) : Response where
  status := c.status
  contentType := c.contentType
  requestId :=
    match r.givenId? with
    | some id => .given id
    | none => .fresh
  body := c.body

end Content

end Turnstile.Http
