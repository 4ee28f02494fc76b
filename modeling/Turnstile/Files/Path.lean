/-!
# Paths

A path is written as names with slashes between them.  A single point as a name stays in place, two
points lead up, and a path that starts with a slash starts at the root.  Names and paths have a
greatest length in bytes, and the character zero may stand in neither.
-/

namespace Turnstile.Files

/-- Why a path leads nowhere, or a folder cannot be made. -/
inductive Fault where
  | missing
  | notFolder
  | occupied
  | tooLong
  | zeroCharacter
deriving DecidableEq, Repr

/-- What the system says about a fault. -/
def Fault.message : Fault → String
  | missing => "No such file or directory (os error 2)"
  | notFolder => "Not a directory (os error 20)"
  | occupied => "File exists (os error 17)"
  | tooLong => "File name too long (os error 36)"
  | zeroCharacter => "file name contained an unexpected NUL byte"

/-- A path to a file or a folder. -/
structure Path where
  /-- Whether the path starts at the root. -/
  isAbsolute : Bool
  names : List String
  /-- Whether a slash follows the last name, so that only a folder can be meant. -/
  endsInSlash : Bool
deriving DecidableEq, Repr

namespace Path

/-- The length of the longest name, in bytes. -/
def maxNameBytes : Nat := 255

/-- The length of the longest path, in bytes. -/
def maxBytes : Nat := 4095

/-- The path that a text writes. -/
def read (text : String) : Except Fault Path :=
  if text.contains '\x00' then .error .zeroCharacter
  else if maxBytes < text.utf8ByteSize then .error .tooLong
  else
    .ok {
      isAbsolute := text.startsWith "/"
      names := (text.splitOn "/").filter (· ≠ "")
      endsInSlash := text.endsWith "/" }

/-- The text of a path to a name in a folder. -/
def inFolder (folder name : String) : String :=
  if folder.isEmpty || folder.endsWith "/" then folder ++ name else folder ++ "/" ++ name

/-- The text of a path. -/
def text (p : Path) : String :=
  (if p.isAbsolute then "/" else "") ++ String.intercalate "/" p.names

/-- The names without those that stay in place. -/
def moves (p : Path) : List String :=
  p.names.filter (· ≠ ".")

/-- The folders above a path, the nearest first, without the one in which it starts. -/
def above (p : Path) : List Path :=
  let counts := (List.range p.moves.length).reverse.filter (0 < ·)
  counts.map fun count ↦ ⟨p.isAbsolute, p.moves.take count, false⟩

/-- What the path calls the thing it leads to, if it does not lead up to it. -/
def lastName? (p : Path) : Option String :=
  match p.moves.getLast? with
  | some ".." => none
  | name => name

/-- What follows the last point of a name, unless the name starts with that point. -/
def extension? (name : String) : Option String :=
  match name.toList.reverse.span (· ≠ '.') with
  | (ending, _ :: _ :: _) => some (String.ofList ending.reverse)
  | _ => none

/-- The path with an ending added to its last name, if it has one. -/
def withEnding (p : Path) (ending : String) : Option Path :=
  p.lastName?.map fun name ↦ ⟨p.isAbsolute, p.moves.dropLast ++ [name ++ ending], false⟩

end Path

end Turnstile.Files
