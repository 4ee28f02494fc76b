/-!
# Ordered association lists

Entries in increasing order of their keys, one per key.  Keys are compared character by character,
by code point.
-/

namespace Turnstile.Ordered

variable {α : Type}

/-- Changes the entry of `key` by `f`, adding one made from `fallback` in its place if there is
none. -/
def alter (key : String) (fallback : α) (f : α → α) : List (String × α) → List (String × α)
  | [] => [(key, f fallback)]
  | (k, a) :: rest =>
    if key = k then (k, f a) :: rest
    else if key < k then (key, f fallback) :: (k, a) :: rest
    else (k, a) :: alter key fallback f rest

/-- Sets the entry of `key`. -/
def insert (key : String) (a : α) (entries : List (String × α)) : List (String × α) :=
  alter key a (fun _ ↦ a) entries

/-- The entries listed in any order; of a repeated key the last one counts. -/
def ofList (entries : List (String × α)) : List (String × α) :=
  entries.foldl (fun ordered entry ↦ insert entry.1 entry.2 ordered) []

end Turnstile.Ordered
