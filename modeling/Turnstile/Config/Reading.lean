import Turnstile.Config.Basic
import Turnstile.Config.Path
import Turnstile.Decimal.Reading
import Turnstile.Decimal.Shortest
import Turnstile.Ordered

/-!
# Reading a configuration from settings

A configuration is a record whose fields are settings.  Fields that are missing keep their standard
values, settings without a field are passed over, and only what may be left open may be absent.

How a setting becomes a value is a choice of conversions.  The exact ones take a setting only if it
already has the type of the field.  The lenient ones serve sources without types of their own: they
read numbers and flags from texts, round fractions, and write scalars as texts.
-/

namespace Turnstile.Config

/-- How settings become the values of fields. -/
structure Conversions where
  text : Setting → Option String
  flag : Setting → Option Bool
  /-- A number that is not negative, of any size. -/
  natural : Setting → Option Nat
  /-- The name of one of several alternatives. -/
  choice : Setting → Option String
  /-- Whether a record that is written as a list may have more items than fields. -/
  allowsSurplus : Bool

/-! ## Exact conversions -/

/-- The name of an alternative: a text, or the only key of a table that has nothing under it. -/
def exactChoice : Setting → Option String
  | .text s => some s
  | .table [(s, .absent)] => some s
  | _ => none

/-- The conversions that take a value of the right type only. -/
def Conversions.exact : Conversions where
  text
    | .text s => some s
    | _ => none
  flag
    | .flag b => some b
    | _ => none
  natural
    | .whole (.ofNat n) => some n
    | _ => none
  choice := exactChoice
  allowsSurplus := false

/-! ## Lenient conversions -/

/-- Scalars as text. -/
def lenientText : Setting → Option String
  | .text s => some s
  | .flag b => some (if b then "true" else "false")
  | .whole n => some (Numeral.write n)
  | .real x => some (Decimal.write x)
  | _ => none

/-- The flag that a word names. -/
def flagOfWord? (word : String) : Option Bool :=
  if ["true", "on", "yes"].contains word then some true
  else if ["false", "off", "no"].contains word then some false
  else none

/-- A flag; of a number, whether it differs from zero. -/
def lenientFlag : Setting → Option Bool
  | .flag b => some b
  | .whole n => some (n != 0)
  | .real x => some (x != 0)
  | .text s =>
    if s = "1" then some true
    else if s = "0" then some false
    else flagOfWord? s.toLower
  | _ => none

/-- A number.  A fraction is rounded, a half away from zero, and held within the range of words of
64 bits. -/
def lenientNatural : Setting → Option Nat
  | .flag b => some b.toNat
  | .whole (.ofNat n) => some n
  | .whole (.negSucc _) => none
  | .real x => some x.round.toUInt64.toNat
  | .text s =>
    match flagOfWord? s.toLower with
    | some b => some b.toNat
    | none => Numeral.readUnsigned (UInt64.size - 1) s.toList
  | _ => none

/-- The name of an alternative: a text, or the only key of a table. -/
def lenientChoice : Setting → Option String
  | .text s => some s
  | .table [(s, _)] => some s
  | _ => none

/-- The conversions for sources without types of their own. -/
def Conversions.lenient : Conversions where
  text := lenientText
  flag := lenientFlag
  natural := lenientNatural
  choice := lenientChoice
  allowsSurplus := true

/-! ## Records -/

namespace Conversions

/-- The settings of a record by the names of its fields; a list gives them in order. -/
def record? (c : Conversions) (names : List String) : Setting → Option (List (String × Setting))
  | .table entries => some entries
  | .list items =>
    if c.allowsSurplus || items.length ≤ names.length then some (names.zip items) else none
  | _ => none

/-- The value of a field, which keeps its standard value if it is not set. -/
def field {α : Type} (settings : List (String × Setting)) (name : String)
    (convert : Setting → Option α) (standard : α) : Option α :=
  match settings.lookup name with
  | some s => convert s
  | none => some standard

/-- A value that may be left open. -/
def optional {α : Type} (convert : Setting → Option α) : Setting → Option (Option α)
  | .absent => some none
  | s => (convert s).map some

/-- A list of values. -/
def listOf {α : Type} (convert : Setting → Option α) : Setting → Option (List α)
  | .list items => items.mapM convert
  | _ => none

/-- A table of values by their keys, in the order of the keys. -/
def tableOf {α : Type} (convert : Setting → Option α) : Setting → Option (List (String × α))
  | .table entries =>
    (entries.mapM fun entry ↦ (convert entry.2).map fun a ↦ (entry.1, a)).map Ordered.ofList
  | _ => none

variable (c : Conversions)

def word16 (s : Setting) : Option UInt16 :=
  (c.natural s).bind fun n ↦ if n < UInt16.size then some (UInt16.ofNat n) else none

def word32 (s : Setting) : Option UInt32 :=
  (c.natural s).bind fun n ↦ if n < UInt32.size then some (UInt32.ofNat n) else none

def word64 (s : Setting) : Option UInt64 :=
  (c.natural s).bind fun n ↦ if n < UInt64.size then some (UInt64.ofNat n) else none

/-- How addresses get their names, by the name of the kind. -/
def nameSource (s : Setting) : Option NameSource :=
  match c.choice s with
  | some "dns" => some .dns
  | some "static" => some .table
  | _ => none

def resolver (s : Setting) : Option ResolverSettings := do
  let settings ← c.record? ["kind", "hosts"] s
  let kind ← field settings "kind" c.nameSource .dns
  let hosts ← field settings "hosts" (tableOf c.text) []
  some { kind, hosts }

def bank (s : Setting) : Option BankSettings := do
  let settings ← c.record? ["surface_init_contention"] s
  let surfaceInitContention ← field settings "surface_init_contention" c.flag false
  some { surfaceInitContention }

/-- The fields of a configuration, in order. -/
def fieldNames : List String :=
  ["node", "cluster", "dir", "api_port", "replication_port", "latency_ms", "request_timeout_ms",
    "schema_retries", "schema_backoff_ms", "handover_grace_ms", "busy_timeout_ms",
    "roles_adjustment_ms", "resolver", "bank", "log_level"]

/-- The configuration that a setting describes. -/
def config (s : Setting) : Option Config := do
  let settings ← c.record? fieldNames s
  let base := Config.standard
  let node ← field settings "node" c.text base.node
  let cluster ← field settings "cluster" (listOf c.text) base.cluster
  let dir ← field settings "dir" c.text base.dir
  let apiPort ← field settings "api_port" c.word16 base.apiPort
  let enginePort? ← field settings "replication_port" (optional c.word16) base.enginePort?
  let latency ← field settings "latency_ms" c.word64 base.latency
  let requestTimeout? ←
    field settings "request_timeout_ms" (optional c.word64) base.requestTimeout?
  let schemaAttempts ← field settings "schema_retries" c.word32 base.schemaAttempts
  let schemaBackoff ← field settings "schema_backoff_ms" c.word64 base.schemaBackoff
  let handoverGrace ← field settings "handover_grace_ms" c.word64 base.handoverGrace
  let busyTimeout ← field settings "busy_timeout_ms" c.word64 base.busyTimeout
  let rolesPeriod ← field settings "roles_adjustment_ms" c.word64 base.rolesPeriod
  let resolver ← field settings "resolver" c.resolver base.resolver
  let bank ← field settings "bank" c.bank base.bank
  let logLevel ← field settings "log_level" c.text base.logLevel
  some { node, cluster, dir, apiPort, enginePort?, latency, requestTimeout?, schemaAttempts,
         schemaBackoff, handoverGrace, busyTimeout, rolesPeriod, resolver, bank, logLevel }

end Conversions

end Turnstile.Config
