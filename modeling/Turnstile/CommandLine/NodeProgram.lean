import Turnstile.CommandLine.Arguments
import Turnstile.CommandLine.LogFilter
import Turnstile.Config.Load
import Turnstile.Server.Startup

/-!
# The program that runs a node

The program reads its configuration from a file and the environment, lets the options of its command
line override both, and serves until it is told to stop.
-/

namespace Turnstile.CommandLine.NodeProgram

/-- The options of a node. -/
structure Options where
  /-- The name of the configuration file. -/
  config : String
  node : Option String
  cluster : List String
  dir : Option String
  latency : Option UInt64
  port : Option UInt16
deriving DecidableEq, Repr

/-- The name of the file that is read if no other is given. -/
def standardFile : String := Release.name

/-- What the program says about its version. -/
def versionText : String := Release.name ++ "-node " ++ Release.version

/-- A number of 64 bits. -/
def word64? (text : String) : Option UInt64 :=
  (Numeral.readUnsigned (UInt64.size - 1) text.toList).map UInt64.ofNat

/-- A port. -/
def port? (text : String) : Option UInt16 :=
  (Numeral.readInt64 text.toList).bind fun n ↦
    if 0 ≤ n.toInt ∧ n.toInt < UInt16.size then some (UInt16.ofNat n.toInt.toNat) else none

/-- What the program takes. -/
def grammar : Grammar where
  flags :=
    [⟨"config", false, fun _ ↦ none⟩, ⟨"node", false, fun _ ↦ none⟩,
      ⟨"cluster", true, fun _ ↦ none⟩, ⟨"dir", false, onlyIf fun text ↦ !text.isEmpty⟩,
      ⟨"latency", false, onlyIf fun text ↦ (word64? text).isSome⟩,
      ⟨"port", false, onlyIf fun text ↦ (port? text).isSome⟩]
  words := 0
  hasVersion := true
  stopsAtWord := false

/-- The options among the arguments. -/
def Options.ofArguments (a : Arguments) : Options where
  config := (a.value? "config").getD standardFile
  node := a.value? "node"
  cluster := (a.values "cluster").flatMap fun text ↦ text.splitOn ","
  dir := a.value? "dir"
  latency := (a.value? "latency").bind word64?
  port := (a.value? "port").bind port?

/-- Reads the options from a command line. -/
def Options.read (arguments : List String) : Except Refusal Options :=
  (Arguments.read grammar arguments).map ofArguments

/-- The configuration with what the options say in its place. -/
def Options.override (o : Options) (c : Config) : Config :=
  { c with
    node := o.node.getD c.node
    cluster := if o.cluster.isEmpty then c.cluster else o.cluster
    dir := o.dir.getD c.dir
    latency := o.latency.getD c.latency
    apiPort := o.port.getD c.apiPort }

/-- What a configuration file's name has after its last point. -/
def extension : String := "toml"

/-- The path of the configuration file of a name: the name itself if it leads to a file, which then
must have the right ending, or else the name with the ending added. -/
def filePath? (files : Files) (name : String) : Option Files.Path := do
  let p ← (Files.Path.read name).toOption
  if files.isFile p then
    if p.lastName? >>= Files.Path.extension? = some extension then some p else none
  else
    let p ← p.withEnding ("." ++ extension)
    if files.isFile p then some p else none

/-- The configuration of the node. -/
def configure (o : Options) (file : Option String) (environment : List (String × String)) :
    Except Error Config :=
  (Config.load file environment).map o.override

/-- The end of a node that is stopped as soon as it serves.  The log is set up before the server
starts. -/
def run (o : Options) (file : Option String) (environment : List (String × String))
    (files : Files) : Ending :=
  match configure o file environment with
  | .error e => .ofError e
  | .ok c =>
    let ending : Ending :=
      match Server.startAndStop c files with
      | .ok () => ⟨0, "", ""⟩
      | .error e => .ofError e
    { ending with errors := String.join (LogFilter.warnings c.logLevel) ++ ending.errors }

end Turnstile.CommandLine.NodeProgram
