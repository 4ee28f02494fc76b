import Turnstile.Reply

/-!
# The client

A client sends each call as one request and reads the reply back.  How requests travel is left open:
a transport takes a method, a URL and a body and gives the text of the response.
-/

namespace Turnstile.Client

/-- What a client can ask of a node. -/
inductive Call where
  | append (batch : String)
  | balances
  | createAccounts (accounts : List Int64) (total : Int64)
  | transfer (source target amount : Int64)
  | readSet
  | addElement (value : String)
  | leader
  | members
  | remove (name : String)
  | ready
deriving DecidableEq, Repr

/-- The body of an account creation. -/
def accountsBody (accounts : List Int64) (total : Int64) : String :=
  "\x7b:accounts [" ++ String.intercalate " " (accounts.map Numeral.writeInt64) ++
    "], :total-amount " ++ Numeral.writeInt64 total ++ "\x7d"

/-- The body of a transfer. -/
def transferBody (source target amount : Int64) : String :=
  "\x7b:from " ++ Numeral.writeInt64 source ++ ", :to " ++ Numeral.writeInt64 target ++
    ", :amount " ++ Numeral.writeInt64 amount ++ "\x7d"

/-- A request without the node it goes to. -/
structure Message where
  method : String
  path : String
  body : Option String
deriving DecidableEq, Repr

/-- The request that a call sends. -/
def Call.message : Call → Message
  | append batch => ⟨"POST", "/append", some batch⟩
  | balances => ⟨"GET", "/bank", none⟩
  | createAccounts accounts total => ⟨"PUT", "/bank", some (accountsBody accounts total)⟩
  | transfer source target amount => ⟨"POST", "/bank", some (transferBody source target amount)⟩
  | readSet => ⟨"GET", "/set", none⟩
  | addElement value => ⟨"POST", "/set", some value⟩
  | leader => ⟨"GET", "/leader", none⟩
  | members => ⟨"GET", "/members", none⟩
  | remove name => ⟨"DELETE", "/members", some name⟩
  | ready => ⟨"GET", "/ready", none⟩

/-- The URL of a node without slashes at its end. -/
def baseUrl (url : String) : String :=
  String.ofList (url.toList.reverse.dropWhile (· = '/')).reverse

/-- How a request reaches a node: from method, URL and body to the text of the response. -/
abbrev Transport := String → String → Option String → Except Error String

/-- Sends a call to the node at a URL and reads the reply. -/
def send (transport : Transport) (url : String) (c : Call) : Except Error String :=
  let m := c.message
  match transport m.method (baseUrl url ++ m.path) m.body with
  | .ok text => Reply.parse text
  | .error e => .error e

/-- Whether a URL names a host to connect to. -/
def hasHost (url : String) : Bool :=
  let rest :=
    match Reply.afterMark "http://".toList url.toList with
    | some rest => rest
    | none => (Reply.afterMark "https://".toList url.toList).getD []
  match rest with
  | c :: _ => !(c == '/' || c == '?' || c == '#' || c == ':' || c == ' ')
  | [] => false

/-- The transport of a network where nobody listens. -/
def nobodyListens : Transport := fun _ url _ ↦
  if hasHost url then .error (.http ("error sending request for url (" ++ url ++ ")"))
  else .error (.http "builder error")

end Turnstile.Client
