import Turnstile.Config.Basic
import Turnstile.Http.Router
import Turnstile.Release
import Turnstile.Server.Markers
import Turnstile.Server.Schema
import Turnstile.Server.Shutdown

/-!
# Starting and stopping a server

A server starts from a configuration and the files around it.  The configuration is checked, the
data directory is made and its markers are read; then the node resolves its own name, joins its
cluster, opens the database, creates the schema and listens.  The first step that fails ends the
start.  A node that has been removed does not start, which is no failure.
-/

namespace Turnstile.Server

/-- A server that listens. -/
structure Running where
  context : Http.Context
  service : Service
  /-- The node's id in its cluster. -/
  node : Nat
  ip : Net.IpAddress
  port : UInt16
  /-- How long the handover of leadership may take, in milliseconds. -/
  grace : Nat

/-- What a start leads to. -/
inductive Start where
  /-- The node has been removed from its cluster. -/
  | removed
  | running (s : Running)

/-- How long a call takes when nothing else holds it up. -/
def callTime : Service.Call → Nat
  | .pause length => length
  | _ => 0

/-- The resolver of the system, as far as it does without a name service: an address is its own
name, and the local host is known. -/
def systemResolver : Resolver where
  reverse host := .error (.unresolvedNode host "no name service")
  forward name :=
    match Net.IpAddress.parse name with
    | some ip => .ok ip
    | none =>
      if name = "localhost" then .ok (.v4 #v[127, 0, 0, 1])
      else .error (.unresolvedNode name "no name service")

/-- The resolver that a configuration asks for. -/
def resolverOf (c : Config.ResolverSettings) : Resolver :=
  match c.kind with
  | .dns => systemResolver
  | .table => Resolver.ofTable c.hosts

/-- Whether a machine can listen at an address whatever its networks are: a loopback address, the
one that stands for all, the one that reaches everyone, or one of a group. -/
def isOwnOctets (octets : List Nat) : Bool :=
  match octets with
  | [0, 0, 0, 0] => true
  | [255, 255, 255, 255] => true
  | first :: _ => first = 127 || (224 ≤ first && first < 240)
  | [] => false

/-- The same for addresses of both versions; one of the newer version may stand for an older one. -/
def isOwnAddress : Net.IpAddress → Bool
  | .v4 octets => isOwnOctets (octets.toList.map UInt8.toNat)
  | .v6 groups =>
    match groups.toList.map UInt16.toNat with
    | [0, 0, 0, 0, 0, 0xFFFF, high, low] =>
      isOwnOctets [high / 256, high % 256, low / 256, low % 256]
    | groups => groups.take 7 = [0, 0, 0, 0, 0, 0, 0] && groups.getLastD 0 ≤ 1

/-- Listening at an address of another machine. -/
def foreignAddress : Error :=
  .io "Cannot assign requested address (os error 99)"

/-- What the requests of a configured node share. -/
def contextOf (c : Config) (resolver : Resolver) : Http.Context where
  node := c.node
  directory := ⟨resolver, c.enginePort.toNat⟩
  expectedNodes := c.expectedNodes.length
  requestTimeout := c.requestTimeout
  surfaceInitContention := c.bank.surfaceInitContention

/-- Makes the node a member, opens the database and creates the schema. -/
def bootstrap (c : Config) (options : Cluster.Node.Options) : Service.ServiceAction Nat := do
  let id ← Service.onCluster (Cluster.Node.join options)
  ExceptT.mk (.done (Cluster.Node.openDatabase (some id) Release.databaseName))
  ExceptT.mk ((Schema.ensure c.schemaAttempts.toNat c.schemaBackoff.toNat).interpret
    Schema.onService)
  return id

/-- Starts a server. -/
def start (c : Config) (files : Files) : Except Error Start := do
  c.validate.mapError Config.Fault.error
  c.checkScope.mapError Config.Fault.error
  let files ← (files.makeFolders c.dir).mapError fun f ↦ Error.io f.message
  let markers ← Markers.read c.dir files
  if markers.removed then return .removed
  let resolver := resolverOf c.resolver
  let ip ← resolver.forward c.node
  let options := c.options ip.text markers.rejoin
  let (joined, service, _) :=
    (bootstrap c options).run.runTimed Service.answer callTime (.fresh options.busyTimeout)
  let node ← joined
  if isOwnAddress ip then
    return .running
      { context := contextOf c resolver, service, node, ip, port := c.apiPort,
        grace := c.handoverGrace.toNat }
  else throw foreignAddress

/-- Answers one request, with nothing else going on. -/
def Running.respond (s : Running) (r : Http.Request) : Http.Response × Running :=
  let (response, service, _) :=
    (Http.serve s.context r).runAlone Service.answer callTime s.service
  (response, { s with service })

/-- Shuts the node down. -/
def Running.stop (s : Running) : Except Error Unit :=
  ((shutdown s.grace (Service.onCluster (Cluster.Node.handover (some s.node))).run
    (Service.onStore Database.close).run (.done (.ok ()))).runAlone
      Service.answer callTime s.service).1

/-- A server that is stopped as soon as it listens. -/
def startAndStop (c : Config) (files : Files) : Except Error Unit := do
  match ← start c files with
  | .removed => return ()
  | .running s => s.stop

end Turnstile.Server
