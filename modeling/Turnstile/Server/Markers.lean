import Turnstile.Error
import Turnstile.Files.Basic

/-!
# Markers in the data directory

The presence of two entries in the data directory tells a node about its past: one that it has been
removed from the cluster, the other that it comes back after a removal.
-/

namespace Turnstile.Server

/-- What the data directory tells a node about its past. -/
structure Markers where
  /-- The node has been removed and does not start. -/
  removed : Bool
  /-- The node comes back, and joins every other node instead of those before it. -/
  rejoin : Bool
deriving DecidableEq, Repr

namespace Markers

/-- A marker that cannot be looked for. -/
def unreadable (name : String) (f : Files.Fault) : Error :=
  .internal ("check if '" ++ name ++ "' exists: " ++ f.message)

/-- Whether there is an entry of a name in a directory; one that is not there has none. -/
def isPresent (dir name : String) (files : Files) : Except Error Bool :=
  match Files.Path.read (Files.Path.inFolder dir name) >>= files.locate with
  | .ok _ => .ok true
  | .error .missing => .ok false
  | .error f => .error (unreadable name f)

/-- The paths of the markers of a directory. -/
def paths (dir : String) : List String :=
  ["removed", "rejoin"].map (Files.Path.inFolder dir)

/-- Reads the markers of a directory. -/
def read (dir : String) (files : Files) : Except Error Markers := do
  let removed ← isPresent dir "removed" files
  let rejoin ← isPresent dir "rejoin" files
  return { removed, rejoin }

end Markers

end Turnstile.Server
