import Turnstile.Config.Setting

/-!
# The tables of a TOML document

A document grows line by line: headers open tables, and keys set values in the table that is open.
A table remembers how it came to be, because that decides what may still be added to it.  A header
may open a table once, a key with points may only add to tables that such keys have made, and a
value is never set twice or extended.
-/

namespace Turnstile.Toml

open Config (Setting)

/-- How a table came to be. -/
inductive Origin where
  /-- As a part of the path of a header. -/
  | implied
  /-- By a header of its own. -/
  | header
  /-- As a part of a key with points. -/
  | dotted
deriving DecidableEq, Repr

/-- What a key stands for. -/
inductive Item where
  | value (v : Setting)
  | table (origin : Origin) (entries : List (String × Item))
  /-- An array of tables, of which only the last can grow. -/
  | tables (finished : List Setting) (last : List (String × Item))
deriving Inhabited

/-- The entries of a table. -/
abbrev Entries := List (String × Item)

mutual

/-- The setting that an item is in the end. -/
def Item.setting : Item → Setting
  | .value v => v
  | .table _ entries => .table (settings entries)
  | .tables finished last => .list (finished ++ [.table (settings last)])

/-- The settings of a table's entries. -/
def settings : List (String × Item) → List (String × Setting)
  | [] => []
  | (key, item) :: rest => (key, item.setting) :: settings rest

end

/-- Changes what a key stands for, if anything, and fails if that cannot be changed so. -/
def alter (key : String) (f : Option Item → Option Item) : Entries → Option Entries
  | [] => (f none).map fun item ↦ [(key, item)]
  | (k, item) :: rest =>
    if k = key then (f (some item)).map fun item ↦ (k, item) :: rest
    else (alter key f rest).map ((k, item) :: ·)

/-! ## Headers -/

/-- Changes the entries under a key on the path of a header. -/
def enter (f : Entries → Option Entries) : Option Item → Option Item
  | none => (f []).map (.table .implied)
  | some (.table origin entries) => (f entries).map (.table origin)
  | some (.tables finished last) => (f last).map (.tables finished)
  | some (.value _) => none

/-- Changes the entries at the end of a path. -/
def modifyAt (f : Entries → Option Entries) : List String → Entries → Option Entries
  | [], entries => f entries
  | key :: rest, entries => alter key (enter (modifyAt f rest)) entries

/-- Opens a table: a new one, or one that headers below it have implied. -/
def openTable : Option Item → Option Item
  | none => some (.table .header [])
  | some (.table .implied entries) => some (.table .header entries)
  | some _ => none

/-- Opens the next table of an array of tables. -/
def openElement : Option Item → Option Item
  | none => some (.tables [] [])
  | some (.tables finished last) => some (.tables (finished ++ [.table (settings last)]) [])
  | some _ => none

/-- Changes what the last key of a path stands for. -/
def declareAt (declare : Option Item → Option Item) (path : List String) (entries : Entries) :
    Option Entries :=
  match path.reverse with
  | [] => none
  | key :: above => modifyAt (alter key declare) above.reverse entries

/-! ## Keys -/

/-- Sets a value where there is none. -/
def setVacant (v : Setting) : Option Item → Option Item
  | none => some (.value v)
  | some _ => none

/-- Changes the entries under a key that stands before a point.  A table that was made otherwise
may be passed through unless it has a header, but `innermost` says that the value goes into it,
for which it must have been made by such a key. -/
def enterDotted (innermost : Bool) (f : Entries → Option Entries) : Option Item → Option Item
  | none => (f []).map (.table .dotted)
  | some (.table origin entries) =>
    if origin = .dotted ∨ (origin = .implied ∧ ¬innermost) then (f entries).map (.table origin)
    else none
  | some (.tables finished last) =>
    if innermost then none else (f last).map (.tables finished)
  | some (.value _) => none

/-- Sets the value of a key. -/
def setKey (v : Setting) : List String → Entries → Option Entries
  | [], _ => none
  | [key], entries => alter key (setVacant v) entries
  | key :: next :: rest, entries =>
    alter key (enterDotted rest.isEmpty (setKey v (next :: rest))) entries

end Turnstile.Toml
