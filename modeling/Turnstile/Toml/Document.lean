import Turnstile.Toml.Scalar
import Turnstile.Toml.Tree

/-!
# TOML documents

A document is a sequence of lines: blank ones, headers, and keys with their values.  Arrays and
inline tables may run over several lines and end in a comma.  Reading a document gives its top-level
entries, or nothing if it is not well formed.
-/

namespace Turnstile.Toml

open Config (Setting)

/-- What follows spaces, comments and line ends. -/
def skipFiller (s : List Char) : Option (List Char) :=
  skipLines s.length s

/-- A key and the equals sign after it, with what `skip` passes over around the sign. -/
def readKeyEquals (skip : List Char → Option (List Char)) (s : List Char) :
    Option (List String × List Char) := do
  let (path, rest) ← readKey s
  match ← skip rest with
  | '=' :: rest => some (path, ← skip rest)
  | _ => none

mutual

/-- A value, with `room` for so many arrays and inline tables inside each other.  The fuel is the
number of characters. -/
def readValue : Nat → Nat → List Char → Option (Setting × List Char)
  | 0, _, _ => none
  | fuel + 1, room, s =>
    match s, room with
    | '[' :: rest, room + 1 => readArray fuel room [] rest
    | '\x7b' :: rest, room + 1 => readInline fuel room [] rest
    | '[' :: _, 0 => none
    | '\x7b' :: _, 0 => none
    | '"' :: _, _ => (readString s).map fun (text, rest) ↦ (.text text, rest)
    | '\x27' :: _, _ => (readString s).map fun (text, rest) ↦ (.text text, rest)
    | s, _ => readWord s

/-- The rest of an array, after the items in `items`, which are kept in reverse. -/
def readArray : Nat → Nat → List Setting → List Char → Option (Setting × List Char)
  | 0, _, _, _ => none
  | fuel + 1, room, items, s =>
    match skipFiller s with
    | none => none
    | some (']' :: rest) => some (.list items.reverse, rest)
    | some s =>
      match readValue fuel room s with
      | none => none
      | some (v, rest) =>
        match skipFiller rest with
        | some (',' :: rest) => readArray fuel room (v :: items) rest
        | some (']' :: rest) => some (.list (v :: items).reverse, rest)
        | _ => none

/-- The rest of an inline table, which has the entries read so far. -/
def readInline : Nat → Nat → Entries → List Char → Option (Setting × List Char)
  | 0, _, _, _ => none
  | fuel + 1, room, entries, s =>
    match skipFiller s with
    | none => none
    | some ('\x7d' :: rest) => some (.table (settings entries), rest)
    | some s =>
      match readKeyEquals skipFiller s with
      | none => none
      | some (path, rest) =>
        match readValue fuel room rest with
        | none => none
        | some (v, rest) =>
          match setKey v path entries, skipFiller rest with
          | some entries, some (',' :: rest) => readInline fuel room entries rest
          | some entries, some ('\x7d' :: rest) => some (.table (settings entries), rest)
          | _, _ => none

end

/-! ## Lines -/

/-- What a line says. -/
inductive Line where
  | blank
  /-- Opens a table. -/
  | header (path : List String)
  /-- Opens the next table of an array. -/
  | element (path : List String)
  | entry (path : List String) (v : Setting)

/-- The part of a line before its comment. -/
def readLineContent (s : List Char) : Option (Line × List Char) :=
  match s with
  | [] => some (.blank, [])
  | '[' :: '[' :: rest => do
    let (path, rest) ← readKey rest
    match skipSpace rest with
    | ']' :: ']' :: rest => some (.element path, rest)
    | _ => none
  | '[' :: rest => do
    let (path, rest) ← readKey rest
    match skipSpace rest with
    | ']' :: rest => some (.header path, rest)
    | _ => none
  | c :: rest =>
    if c = '#' || c = '\n' || c = '\r' then some (.blank, c :: rest)
    else do
      let (path, rest) ← readKeyEquals (fun s ↦ some (skipSpace s)) (c :: rest)
      let (v, rest) ← readValue (rest.length + 1) maxDepth rest
      some (.entry path v, rest)

/-- A line with its end, which may be missing at the end of the document. -/
def readLine (s : List Char) : Option (Line × List Char) := do
  let (line, rest) ← readLineContent (skipSpace s)
  let rest ← skipComment (skipSpace rest)
  if rest.isEmpty then some (line, [])
  else
    let rest ← lineEnd? rest
    some (line, rest)

/-- All lines.  The fuel is the number of characters. -/
def readAllLines : Nat → List Char → Option (List Line)
  | _, [] => some []
  | 0, _ => none
  | fuel + 1, s => do
    let (line, rest) ← readLine s
    let lines ← readAllLines fuel rest
    some (line :: lines)

/-! ## Documents -/

/-- What follows a byte order mark, if there is one. -/
def afterMark : List Char → List Char
  | '\uFEFF' :: rest => rest
  | s => s

/-- The document as far as it is read, and the path of the table that is open. -/
structure Draft where
  entries : Entries
  path : List String

/-- The draft after one more line. -/
def Draft.add (d : Draft) : Line → Option Draft
  | .blank => some d
  | .header path => (declareAt openTable path d.entries).map fun entries ↦ ⟨entries, path⟩
  | .element path => (declareAt openElement path d.entries).map fun entries ↦ ⟨entries, path⟩
  | .entry path v => (modifyAt (setKey v path) d.path d.entries).map fun entries ↦ ⟨entries, d.path⟩

/-- The top-level entries of a document, which may start with a byte order mark. -/
def parse (text : String) : Option (List (String × Setting)) := do
  let s := afterMark text.toList
  let lines ← readAllLines s.length s
  let draft ← lines.foldlM Draft.add ⟨[], []⟩
  some (settings draft.entries)

end Turnstile.Toml
