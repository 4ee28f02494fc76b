import Turnstile.Files.Path
import Turnstile.Files.Tree

/-!
# Files as a program sees them

A program sees a tree of files from a folder in it, where paths start that do not start at the root.
A walk along a path needs a folder for every further step.  A folder can be made where there is
nothing yet, alone or with all the folders above it that are missing.
-/

namespace Turnstile

/-- A tree of files and the place in it where paths start. -/
structure Files where
  root : Files.Tree
  here : List String

namespace Files

/-- Nothing but an empty folder, where paths start. -/
def emptyAt (here : List String) : Files where
  root := .emptyAt here
  here := here

/-- Where a path starts. -/
def origin (files : Files) (p : Path) : List String :=
  if p.isAbsolute then [] else files.here

/-- One step of a walk.  The root lies above itself. -/
def step (files : Files) (place : List String) (name : String) : Except Fault (List String) :=
  match Tree.get? place files.root with
  | some (.folder entries) =>
    if name = "." then .ok place
    else if name = ".." then .ok place.dropLast
    else if Path.maxNameBytes < name.utf8ByteSize then .error .tooLong
    else if (entries.lookup name).isSome then .ok (place ++ [name])
    else .error .missing
  | _ => .error .notFolder

/-- Whether there is a folder at a place. -/
def hasFolder (files : Files) (place : List String) : Bool :=
  match Tree.get? place files.root with
  | some (.folder _) => true
  | _ => false

/-- The place to which a path leads. -/
def locate (files : Files) (p : Path) : Except Fault (List String) := do
  let place ← p.names.foldlM files.step (files.origin p)
  if p.endsInSlash && !files.hasFolder place then throw .notFolder
  return place

/-- Whether a path leads to a folder. -/
def isFolder (files : Files) (p : Path) : Bool :=
  match files.locate p with
  | .ok place => files.hasFolder place
  | .error _ => false

/-- Whether a path leads to a file. -/
def isFile (files : Files) (p : Path) : Bool :=
  match files.locate p with
  | .ok place => !files.hasFolder place
  | .error _ => false

/-! ## Changes -/

/-- Makes a folder in one that there is. -/
def makeFolder (files : Files) (p : Path) : Except Fault Files :=
  match p.names.getLast? with
  | none => .error .occupied
  | some name => do
    let place ← p.names.dropLast.foldlM files.step (files.origin p)
    match Tree.get? place files.root with
    | some (.folder entries) =>
      if name = "." || name = ".." || (entries.lookup name).isSome then throw .occupied
      else if Path.maxNameBytes < name.utf8ByteSize then throw .tooLong
      else return { files with root := Tree.add name .empty place files.root }
    | _ => throw .notFolder

/-- Makes a folder unless it is there. -/
def ensureFolder (files : Files) (p : Path) : Except Fault Files :=
  match files.makeFolder p with
  | .error .occupied => if files.isFolder p then .ok files else .error .occupied
  | result => result

/-- Makes a folder unless it is there, and before it the missing ones among those above it, which
are given from the nearest on. -/
def ensureBelow (files : Files) (p : Path) : List Path → Except Fault Files
  | [] => files.ensureFolder p
  | parent :: others =>
    match files.ensureFolder p with
    | .error .missing => do
      let files ← files.ensureBelow parent others
      files.ensureFolder p
    | result => result

/-- Makes the folder of a path and those above it, unless they are there. -/
def makeFolders (files : Files) (text : String) : Except Fault Files :=
  if text.isEmpty then .ok files
  else do
    let p ← Path.read text
    files.ensureBelow p p.above

/-- Makes a file at a path unless something is there, with the folders above it. -/
def makeFile (files : Files) (p : Path) : Except Fault Files :=
  match p.lastName?, p.above with
  | none, _ => .error .occupied
  | some name, [] => .ok { files with root := addNew files name (files.origin p) }
  | some name, parent :: others => do
    let files ← files.ensureBelow parent others
    let place ← files.locate parent
    return { files with root := addNew files name place }
where
  /-- The tree with a file of a name at a place, unless something is there. -/
  addNew (files : Files) (name : String) (place : List String) : Tree :=
    if (Tree.get? (place ++ [name]) files.root).isSome then files.root
    else Tree.add name .file place files.root

/-- The files with those of the given paths, where they can be made; a path that ends in a slash is
a folder's. -/
def withPaths (files : Files) (texts : List String) : Files :=
  texts.foldl (fun files text ↦
    let made :=
      if text.endsWith "/" then files.makeFolders text
      else Path.read text >>= files.makeFile
    made.toOption.getD files) files

end Files

end Turnstile
