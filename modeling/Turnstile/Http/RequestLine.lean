import Turnstile.Http.Request

/-!
# Requests on one line

A request can be written on one line: the method, the target, and the body if there is one, with a
space after each of the first two.
-/

namespace Turnstile.Http

/-- The text before the first space and the text after it. -/
def cutAtSpace (s : List Char) : String × List Char :=
  (String.ofList (s.takeWhile (· ≠ ' ')), (s.dropWhile (· ≠ ' ')).drop 1)

/-- The request that a line stands for, without headers. -/
def Request.ofLine (line : String) : Request :=
  let (method, rest) := cutAtSpace line.toList
  let (target, body) := cutAtSpace rest
  { method, target, headers := [], body := (String.ofList body).toUTF8 }

end Turnstile.Http
