import Turnstile.Config.Setting
import Turnstile.Text.Numeral

/-!
# Paths to settings

The name of a setting is a path: words joined by points, each with places in square brackets after
it, counted from zero or, if negative, from the end.  A name that is no path is a single word as it
is.  Setting a value at a path makes the tables and lists on the way.
-/

namespace Turnstile.Config

/-- One step from a setting into it. -/
inductive Step where
  | entry (key : String)
  | place (index : Int)
deriving DecidableEq, Repr

namespace Step

/-! ## Reading -/

/-- A character of a word. -/
def isWordChar (c : Char) : Bool :=
  c.isAlphanum || c = '_' || c = '-'

/-- A word, which is not empty. -/
def readWord (s : List Char) : Option (String × List Char) :=
  let word := s.takeWhile isWordChar
  if word.isEmpty then none else some (String.ofList word, s.dropWhile isWordChar)

/-- What follows spaces and tabs. -/
def skipSpace (s : List Char) : List Char :=
  s.dropWhile fun c ↦ c = ' ' || c = '\t'

/-- A place and the bracket that closes it. -/
def readPlace (s : List Char) : Option (Int × List Char) :=
  let s := skipSpace s
  let (sign, digits) : List Char × List Char :=
    match s with
    | '-' :: rest => (['-'], rest)
    | s => ([], s)
  match Numeral.readInt64 (sign ++ digits.takeWhile Char.isDigit) with
  | none => none
  | some n =>
    match skipSpace (digits.dropWhile Char.isDigit) with
    | ']' :: rest => some (n.toInt, rest)
    | _ => none

/-- The steps after the first word.  The fuel is the number of characters. -/
def readAll : Nat → List Char → Option (List Step)
  | _, [] => some []
  | 0, _ => none
  | fuel + 1, '.' :: rest => do
    let (word, rest) ← readWord rest
    let steps ← readAll fuel rest
    some (.entry word :: steps)
  | fuel + 1, '[' :: rest => do
    let (index, rest) ← readPlace rest
    let steps ← readAll fuel rest
    some (.place index :: steps)
  | _, _ => none

end Step

/-- The steps that a name stands for. -/
def stepsOf (name : String) : List Step :=
  let path := do
    let (word, rest) ← Step.readWord name.toList
    let steps ← Step.readAll rest.length rest
    some (Step.entry word :: steps)
  path.getD [.entry name]

/-! ## Changing settings -/

/-- The entries of a table; anything else has none. -/
def Setting.entries : Setting → List (String × Setting)
  | .table entries => entries
  | _ => []

/-- The items of a list; anything else has none. -/
def Setting.items : Setting → List Setting
  | .list items => items
  | _ => []

/-- Changes the entry of a key, which is absent at first. -/
def alterEntry (key : String) (f : Setting → Setting) :
    List (String × Setting) → List (String × Setting)
  | [] => [(key, f .absent)]
  | (k, s) :: rest => if k = key then (k, f s) :: rest else (k, s) :: alterEntry key f rest

/-- Changes the item at a place.  A place beyond either end adds absent items up to it. -/
def alterPlace (index : Int) (f : Setting → Setting) (items : List Setting) : List Setting :=
  let fromStart := if index < 0 then index + items.length else index
  if fromStart < 0 then
    let missing := (-fromStart).toNat
    (List.replicate missing Setting.absent ++ items).modify 0 f
  else
    let i := fromStart.toNat
    (items ++ List.replicate (i + 1 - items.length) Setting.absent).modify i f

/-- Changes the setting at the end of a path. -/
def Setting.alter (f : Setting → Setting) : List Step → Setting → Setting
  | [], s => f s
  | .entry key :: rest, s => .table (alterEntry key (Setting.alter f rest) s.entries)
  | .place index :: rest, s => .list (alterPlace index (Setting.alter f rest) s.items)

mutual

/-- A setting over an older one: a table is laid over entry by entry, anything else replaces it. -/
def Setting.over : Setting → Setting → Setting
  | .table entries, old => .table (layOver entries old.entries)
  | .absent, _ => .absent
  | .flag b, _ => .flag b
  | .whole n, _ => .whole n
  | .real x, _ => .real x
  | .text s, _ => .text s
  | .list items, _ => .list items

/-- Entries over older ones. -/
def layOver : List (String × Setting) → List (String × Setting) → List (String × Setting)
  | [], old => old
  | (key, s) :: rest, old => layOver rest (alterEntry key (Setting.over s) old)

end

/-- What a source says: settings by the paths they are named by, the later ones over the earlier
ones. -/
abbrev Source := List (String × Setting)

/-- The setting of sources laid over each other in order. -/
def Setting.ofSources (sources : List Source) : Setting :=
  sources.flatten.foldl (fun s (name, value) ↦ s.alter value.over (stepsOf name)) (.table [])

end Turnstile.Config
