import Turnstile.Text.Numeral
import Turnstile.Text.Utf8

/-!
# Requests

What the gate reads of an HTTP request: the method, the path of the target, two headers and the
body.  A header's name is matched without regard to case, and of several headers of one name the
first counts; a value is a text only when all its bytes are visible ASCII, spaces or tabs.
-/

namespace Turnstile.Http

/-- An HTTP request. -/
structure Request where
  method : String
  target : String
  headers : List (String × ByteArray)
  body : ByteArray

/-- The largest body, in bytes. -/
def maxBodyBytes : Nat := 1024 * 1024

/-- The path at the start of a text, up to a query or fragment. -/
def pathOf (s : List Char) : List Char :=
  s.takeWhile fun c ↦ c ≠ '?' && c ≠ '#'

/-- What follows `://`, if the text has it. -/
def afterScheme : List Char → Option (List Char)
  | ':' :: '/' :: '/' :: rest => some rest
  | _ :: rest => afterScheme rest
  | [] => none

/-- The path of a target: all of it up to a query when it starts with a slash, and what comes after
the authority when it has a scheme. -/
def targetPath (target : String) : String :=
  match target.toList with
  | '/' :: rest => String.ofList (pathOf ('/' :: rest))
  | s =>
    match afterScheme s with
    | none => target
    | some rest =>
      match rest.dropWhile fun c ↦ c ≠ '/' && c ≠ '?' && c ≠ '#' with
      | '/' :: path => String.ofList (pathOf ('/' :: path))
      | _ => "/"

/-- A value as text. -/
def visibleText? (value : ByteArray) : Option String :=
  let bytes := value.toList
  if bytes.all fun b ↦ b == 9 || (32 ≤ b && b < 127) then
    some (String.ofList (bytes.map fun b ↦ Char.ofNat b.toNat))
  else none

namespace Request

/-- The path that is routed. -/
def path (r : Request) : String :=
  targetPath r.target

/-- The value of the first header with a name, given in lower case. -/
def header? (r : Request) (name : String) : Option ByteArray :=
  (r.headers.find? fun h ↦ h.1.toLower = name).map (·.2)

/-- The length that the request says its body has. -/
def declaredLength? (r : Request) : Option Nat := do
  let text ← visibleText? (← r.header? "content-length")
  Numeral.readUnsigned (UInt64.size - 1) text.toList

/-- The id that the client gave the request. -/
def givenId? (r : Request) : Option String :=
  r.header? "x-request-id" >>= visibleText?

/-- How long the body may be: as long as the request says, but never longer than the limit. -/
def bodyLimit (r : Request) : Nat :=
  min maxBodyBytes (r.declaredLength?.getD maxBodyBytes)

/-- The body as text. -/
def text (r : Request) : String :=
  Text.Utf8.decodeBytes r.body

end Request

end Turnstile.Http
