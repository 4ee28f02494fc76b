import Turnstile.Error

/-!
# Data forms

A form is the value of a data literal: an atom, a sequence, or a map that keeps its pairs in the
order in which they were written, repeated keys included.
-/

namespace Turnstile.Edn

/-- The value of a data literal. -/
inductive Form where
  | nil
  | bool (b : Bool)
  | int (n : Int64)
  | str (s : String)
  | keyword (name : String)
  | symbol (name : String)
  | vector (items : List Form)
  | list (items : List Form)
  | map (pairs : List (Form × Form))
deriving Repr, Inhabited

namespace Form

/-- How messages name the type of a form. -/
def typeName : Form → String
  | nil => "nil"
  | bool _ => "boolean"
  | int _ => "integer"
  | str _ => "string"
  | keyword _ => "keyword"
  | symbol _ => "symbol"
  | vector _ => "vector"
  | list _ => "list"
  | map _ => "map"

/-- Why a form is not what was asked of it. -/
inductive Mismatch where
  | wrongType (expected : String) (found : Form)
  | missing (name : String)

/-- The mismatch as a malformed request. -/
def Mismatch.error : Mismatch → Error
  | wrongType expected found =>
    .malformedRequest ("expected " ++ expected ++ ", got " ++ found.typeName)
  | missing name => .malformedRequest ("missing :" ++ name)

/-- The integer that the form is. -/
def asInt : Form → Except Mismatch Int64
  | int n => .ok n
  | f => .error (.wrongType "integer" f)

/-- The items of a vector or list. -/
def asSeq : Form → Except Mismatch (List Form)
  | vector items => .ok items
  | list items => .ok items
  | f => .error (.wrongType "vector" f)

/-- The pairs of a map. -/
def asMap : Form → Except Mismatch (List (Form × Form))
  | map pairs => .ok pairs
  | f => .error (.wrongType "map" f)

/-- The value of the first pair whose key is the keyword `name`. -/
def valueOf (name : String) : List (Form × Form) → Option Form
  | [] => none
  | (keyword k, value) :: rest => if k = name then some value else valueOf name rest
  | _ :: rest => valueOf name rest

/-- The value under a keyword, if the map has one. -/
def get? (f : Form) (name : String) : Except Mismatch (Option Form) :=
  f.asMap.map (valueOf name)

/-- The value under a keyword, which must be there. -/
def require (f : Form) (name : String) : Except Mismatch Form :=
  match f.get? name with
  | .error e => .error e
  | .ok (some value) => .ok value
  | .ok none => .error (.missing name)

end Form

end Turnstile.Edn
