import Turnstile.Config.Path
import Turnstile.Decimal.Reading

/-!
# Settings from the environment

A variable whose name starts with the program's name sets a value; two underscores stand for the
points of a path, and letters are taken in lower case.  Only names in ASCII lead to settings, so
that lower case need be right only where it leads into ASCII.  The value is what its text looks
like: a flag, a whole number, a decimal, or else a text, which for the cluster is a list of names.
-/

namespace Turnstile.Config.Environment

/-- What the names of variables that count start with. -/
def mark : String := "txgate__"

/-- A letter in lower case, as far as that is in ASCII: the only letter outside ASCII with a lower
case in it is the sign of the kelvin. -/
def lowerCase (c : Char) : Char :=
  if c = '\u212A' then 'k' else c.toLower

/-- The name of the setting that a variable sets, if it sets any. -/
def settingName? (variableName : String) : Option String :=
  let name := variableName.map lowerCase
  if name.startsWith mark then
    some (String.intercalate "." ((name.drop mark.length).toString.splitOn "__"))
  else none

/-- The names of settings whose texts are lists. -/
def listNames : List String := ["cluster"]

/-- The setting that a text looks like. -/
def settingOf (name text : String) : Setting :=
  match text.toLower with
  | "true" => .flag true
  | "false" => .flag false
  | _ =>
    match Numeral.readInt64 text.toList with
    | some n => .whole n.toInt
    | none =>
      match Decimal.read text.toList with
      | some x => .real x
      | none =>
        if listNames.contains name then .list ((text.splitOn ",").map .text) else .text text

/-- What the variables of an environment set. -/
def source (environment : List (String × String)) : Source :=
  environment.filterMap fun (variableName, text) ↦
    (settingName? variableName).map fun name ↦ (name, settingOf name text)

end Turnstile.Config.Environment
