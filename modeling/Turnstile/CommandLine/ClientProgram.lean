import Turnstile.Client.Basic
import Turnstile.Client.Waiting
import Turnstile.CommandLine.Arguments
import Turnstile.Activity
import Turnstile.Release

/-!
# The program that drives a node

The program sends one call to a node and prints its reply, or polls until the cluster is ready.
Each command takes options or words of its own.
-/

namespace Turnstile.CommandLine.ClientProgram

/-- What the program is told to do. -/
inductive Command where
  | send (c : Client.Call)
  /-- Polls for readiness, with a pause in milliseconds between two polls. -/
  | waitReady (attempts interval : Nat)
deriving DecidableEq, Repr

/-- A command for a node, with the patience for each request in milliseconds. -/
structure Order where
  url : String
  timeout : Nat
  command : Command
deriving DecidableEq, Repr

/-- The node that is asked if no other is given. -/
def standardUrl : String := "http://localhost:8080"

/-- What the program says about its version. -/
def versionText : String := Release.name ++ " " ++ Release.version

/-- The patience for a request, in milliseconds, if no other is given. -/
def standardTimeout : Nat := 2000

/-! ## Values -/

/-- Whether a text is a number of 64 bits with a sign. -/
def isInteger (text : String) : Bool :=
  (Numeral.readInt64 text.toList).isSome

/-- Whether a text is a list of such numbers with commas between them. -/
def areIntegers (text : String) : Bool :=
  (text.splitOn ",").all isInteger

/-- A time in milliseconds, which is a number of 64 bits. -/
def timeout? (text : String) : Option Nat :=
  Numeral.readUnsigned (UInt64.size - 1) text.toList

/-- A number of attempts, which is one of 32 bits. -/
def attempts? (text : String) : Option Nat :=
  (Numeral.readInt64 text.toList).bind fun n ↦
    if 0 ≤ n.toInt ∧ n.toInt < UInt32.size then some n.toInt.toNat else none

/-- Why a text is not taken for an interval, if it is not. -/
def intervalRefusal? (text : String) : Option Refusal :=
  match Duration.parse text with
  | .ok _ => none
  | .error _ => some .usage
  | .panic => some .panic

/-- The interval that a text gives. -/
def interval? (text : String) : Option Duration :=
  match Duration.parse text with
  | .ok d => some d
  | _ => none

/-! ## Arguments -/

/-- The options before the command. -/
def outerGrammar : Grammar where
  flags :=
    [⟨"url", false, fun _ ↦ none⟩, ⟨"timeout-ms", false, onlyIf fun text ↦ (timeout? text).isSome⟩]
  words := 1
  hasVersion := true
  stopsAtWord := true

/-- The grammar of a command's own arguments. -/
def innerGrammar (flags : List Flag) (words : Nat) : Grammar where
  flags := flags
  words := words
  hasVersion := false
  stopsAtWord := false

/-- A required number among the options. -/
def integer (a : Arguments) (name : String) : Except Refusal Int64 :=
  match (a.value? name).bind fun text ↦ Numeral.readInt64 text.toList with
  | some n => .ok n
  | none => .error .usage

/-- A command that takes one word. -/
def withWord (build : String → Client.Call) (arguments : List String) : Except Refusal Command := do
  let a ← Arguments.read (innerGrammar [] 1) arguments
  match a.words with
  | [word] => .ok (.send (build word))
  | _ => .error .usage

/-- A command that takes nothing. -/
def withNothing (c : Client.Call) (arguments : List String) : Except Refusal Command :=
  (Arguments.read (innerGrammar [] 0) arguments).map fun _ ↦ .send c

def createAccounts (arguments : List String) : Except Refusal Command := do
  let flags : List Flag := [⟨"accounts", true, onlyIf areIntegers⟩, ⟨"total", false, onlyIf isInteger⟩]
  let a ← Arguments.read (innerGrammar flags 0) arguments
  let texts := (a.values "accounts").flatMap fun text ↦ text.splitOn ","
  let accounts := texts.filterMap fun text ↦ Numeral.readInt64 text.toList
  let total ← integer a "total"
  if accounts.isEmpty then .error .usage else .ok (.send (.createAccounts accounts total))

def transfer (arguments : List String) : Except Refusal Command := do
  let flags : List Flag :=
    [⟨"from", false, onlyIf isInteger⟩, ⟨"to", false, onlyIf isInteger⟩,
      ⟨"amount", false, onlyIf isInteger⟩]
  let a ← Arguments.read (innerGrammar flags 0) arguments
  let source ← integer a "from"
  let target ← integer a "to"
  let amount ← integer a "amount"
  return .send (.transfer source target amount)

def waitReady (arguments : List String) : Except Refusal Command := do
  let flags : List Flag :=
    [⟨"attempts", false, onlyIf fun text ↦ (attempts? text).isSome⟩,
      ⟨"interval", false, intervalRefusal?⟩]
  let a ← Arguments.read (innerGrammar flags 0) arguments
  let attempts := ((a.value? "attempts").bind attempts?).getD 30
  let interval := ((a.value? "interval").bind interval?).getD (.ofSeconds 1)
  return .waitReady attempts interval.millis

/-- The names of the commands. -/
def commandNames : List String :=
  ["append", "balances", "bank-init", "transfer", "set", "set-add", "leader", "members", "remove",
    "ready", "wait-ready", "help"]

/-- Help about the program or one of its commands. -/
def help (arguments : List String) : Refusal :=
  match arguments with
  | [] => .help
  | [name] => if commandNames.contains name then .help else .usage
  | _ => .usage

/-- The command of a name with its arguments. -/
def readCommand (name : String) (arguments : List String) : Except Refusal Command :=
  match name with
  | "append" => withWord .append arguments
  | "balances" => withNothing .balances arguments
  | "bank-init" => createAccounts arguments
  | "transfer" => transfer arguments
  | "set" => withNothing .readSet arguments
  | "set-add" => withWord .addElement arguments
  | "leader" => withNothing .leader arguments
  | "members" => withNothing .members arguments
  | "remove" => withWord .remove arguments
  | "ready" => withNothing .ready arguments
  | "wait-ready" => waitReady arguments
  | "help" => .error (help arguments)
  | _ => .error .usage

/-- Reads a command line. -/
def Order.read (arguments : List String) : Except Refusal Order := do
  let a ← Arguments.read outerGrammar arguments
  match a.words with
  | [name] => do
    let command ← readCommand name a.rest
    return {
      url := (a.value? "url").getD standardUrl
      timeout := ((a.value? "timeout-ms").bind timeout?).getD standardTimeout
      command }
  | _ => .error .usage

/-! ## Running -/

/-- The calls of waiting, made through a transport. -/
def answerWaiting (transport : Client.Transport) (url : String) :
    (c : Client.Waiting.interface.Call) → Unit → Client.Waiting.interface.Answer c × Unit
  | .poll, s => (Client.send transport url .ready, s)
  | .pause _, s => ((), s)

/-- The reply to an order. -/
def Order.reply (o : Order) (transport : Client.Transport) : Except Error String :=
  match o.command with
  | .send c => Client.send transport o.url c
  | .waitReady attempts interval =>
    ((Client.Waiting.waitReady attempts interval).run (answerWaiting transport o.url) ()).1.map
      fun _ ↦ "nil"

/-- The end of the program after an order. -/
def Order.run (o : Order) (transport : Client.Transport) : Ending :=
  match o.reply transport with
  | .ok text => ⟨0, text ++ "\n", ""⟩
  | .error e => .ofError e

end Turnstile.CommandLine.ClientProgram
