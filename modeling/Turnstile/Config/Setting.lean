/-!
# Settings

A setting is a value of a configuration source, whatever its syntax.  Sources differ in the types
they have: a file has all of them, a variable of the environment is guessed from its text.
-/

namespace Turnstile.Config

/-- A value of a configuration source. -/
inductive Setting where
  | absent
  | flag (b : Bool)
  | whole (n : Int)
  | real (x : Float)
  | text (s : String)
  | list (items : List Setting)
  | table (entries : List (String × Setting))
deriving Inhabited

/-- A table with one of its entries set; a new entry comes last. -/
def setEntry {α : Type} (key : String) (a : α) : List (String × α) → List (String × α)
  | [] => [(key, a)]
  | (k, b) :: rest => if k = key then (key, a) :: rest else (k, b) :: setEntry key a rest

end Turnstile.Config
