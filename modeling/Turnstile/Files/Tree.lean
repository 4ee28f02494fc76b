/-!
# Trees of files

Folders hold entries by name, and the contents of files do not matter here.  A place in a tree is
given by the names that lead down to it.
-/

namespace Turnstile.Files

/-- A file, or a folder with its entries. -/
inductive Tree where
  | file
  | folder (entries : List (String × Tree))
deriving Inhabited

namespace Tree

/-- An empty folder. -/
def empty : Tree :=
  .folder []

/-- An empty folder at a place, with the folders above it. -/
def emptyAt (place : List String) : Tree :=
  place.foldr (fun name t ↦ .folder [(name, t)]) empty

/-- What stands at a place. -/
def get? : List String → Tree → Option Tree
  | [], t => some t
  | _ :: _, .file => none
  | name :: rest, .folder entries =>
    match entries.lookup name with
    | some t => get? rest t
    | none => none

/-- Puts an entry into a folder's entries, in place of the one of its name. -/
def put (name : String) (t : Tree) : List (String × Tree) → List (String × Tree)
  | [] => [(name, t)]
  | (n, u) :: rest => if n = name then (name, t) :: rest else (n, u) :: put name t rest

/-- Puts an entry into the folder at a place, if there is one. -/
def add (name : String) (t : Tree) : List String → Tree → Tree
  | _, .file => .file
  | [], .folder entries => .folder (put name t entries)
  | step :: rest, .folder entries =>
    match entries.lookup step with
    | some u => .folder (put step (add name t rest u) entries)
    | none => .folder entries

end Tree

end Turnstile.Files
