import Turnstile.Error

/-!
# Replies

A reply is plain text.  A failure is told from a result by how the text starts, so a result must
never start that way, and a client turns the text back into the result or the failure's message.
-/

namespace Turnstile.Reply

/-- How the reply of a failure starts. -/
def errorMark : List Char :=
  ['E', 'r', 'r', 'o', 'r', ':', ' ']

/-- The reply that reports a failure. -/
def ofError (e : Error) : String :=
  String.ofList errorMark ++ e.message

/-- The reply of a request that failed or gave a text. -/
def render : Except Error String → String
  | .ok text => text
  | .error e => ofError e

/-- The reply to a path and method that no endpoint has. -/
def badRequest : String :=
  String.ofList errorMark ++ "bad request"

/-- What is left of a text after `mark`, if it starts so. -/
def afterMark (mark s : List Char) : Option (List Char) :=
  match mark, s with
  | [], s => some s
  | _ :: _, [] => none
  | m :: mark, c :: s => if m = c then afterMark mark s else none

/-- The result that a reply carries, or the failure that it reports. -/
def parse (text : String) : Except Error String :=
  match afterMark errorMark text.toList with
  | some message => .error (.other (String.ofList message))
  | none => .ok text

end Turnstile.Reply
