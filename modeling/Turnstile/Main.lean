import Turnstile.CommandLine.ClientProgram
import Turnstile.CommandLine.NodeProgram
import Turnstile.Http.RequestLine

/-!
# The programs

With `client` as its first argument the program drives a node, otherwise it runs one.  It has no
network: a node takes one request per line from its input and answers on its output until the input
ends, and a client finds nobody listening.
-/

namespace Turnstile.Programs

open CommandLine

/-- Writes what a program has to say and gives its exit code. -/
def finish (e : Ending) : IO UInt32 := do
  (← IO.getStdout).putStr e.output
  (← IO.getStderr).putStr e.errors
  return UInt32.ofNat e.code

/-- What there is at the given paths and on the way to them. -/
def snapshot (texts : List String) : IO Files := do
  let here ← IO.currentDir
  let start := Files.emptyAt (here.toString.splitOn "/" |>.filter (· ≠ ""))
  let paths := texts.flatMap fun text ↦
    match Files.Path.read text with
    | .ok p => p :: p.above
    | .error _ => []
  let found ← paths.reverse.filterMapM fun p ↦ do
    let onDisk := here / p.text
    if ← onDisk.isDir then return some (p.text ++ "/")
    else if ← onDisk.pathExists then return some p.text
    else return none
  return start.withPaths found

/-- The text of the configuration file of a name, if there is one. -/
def configurationFile (name : String) : IO (Option String) := do
  let files ← snapshot [name, name ++ "." ++ NodeProgram.extension]
  match NodeProgram.filePath? files name with
  | some path => return some (← IO.FS.readFile path.text)
  | none => return none

/-- The variables of the environment that can count, with their values. -/
def environment : IO (List (String × String)) := do
  let names := Config.Conversions.fieldNames ++
    ["bank__surface_init_contention", "resolver__kind"]
  names.filterMapM fun name ↦ do
    let variableName := (Config.Environment.mark ++ name).toUpper
    return (← IO.getEnv variableName).map fun value ↦ (variableName, value)

/-- Answers requests until the input ends, then stops the server. -/
def serve (server : Server.Running) : IO Ending := do
  let input ← IO.getStdin
  let output ← IO.getStdout
  let mut server := server
  repeat
    let line ← input.getLine
    if line.isEmpty then break
    let (response, next) := server.respond (Http.Request.ofLine line.trimAsciiEnd.toString)
    server := next
    output.putStrLn response.body
    output.flush
  match server.stop with
  | .ok () => return ⟨0, "", ""⟩
  | .error e => return .ofError e

/-- Runs a node. -/
def node (arguments : List String) : IO UInt32 := do
  match NodeProgram.Options.read arguments with
  | .error r => finish (r.ending "usage: node [OPTIONS]\n" NodeProgram.versionText)
  | .ok o =>
    let file ← configurationFile o.config
    match NodeProgram.configure o file (← environment) with
    | .error e => finish (.ofError e)
    | .ok c =>
      for warning in LogFilter.warnings c.logLevel do
        (← IO.getStderr).putStr warning
      match Server.start c (← snapshot (Server.Markers.paths c.dir)) with
      | .error e => finish (.ofError e)
      | .ok .removed => finish ⟨0, "", ""⟩
      | .ok (.running server) =>
        IO.FS.createDirAll c.dir
        finish (← serve server)

/-- Drives a node. -/
def client (arguments : List String) : IO UInt32 := do
  match ClientProgram.Order.read arguments with
  | .error r => finish (r.ending "usage: client [OPTIONS] <COMMAND>\n" ClientProgram.versionText)
  | .ok order => finish (order.run Client.nobodyListens)

end Turnstile.Programs

def main (arguments : List String) : IO UInt32 :=
  match arguments with
  | "client" :: rest => Turnstile.Programs.client rest
  | arguments => Turnstile.Programs.node arguments
