import Turnstile.Database
import Turnstile.Edn.Reader

/-!
# The bank workload

Accounts are rows keyed by account id.  They are created once, each with the same share of a total;
whoever comes first wins.  A transfer takes an amount from one account and adds it to another in one
transaction, and asks neither whether they exist nor whether there is enough.
-/

namespace Turnstile.Workload.Bank

open Database (DbAction)
open Edn (Form)
open Store (Row Ticket)

/-- Items converted one by one, the ones before them being kept in reverse. -/
def collectInts (read : List Int64) : List Form → Except Form.Mismatch (List Int64)
  | [] => .ok read.reverse
  | f :: rest =>
    match f.asInt with
    | .ok n => collectInts (n :: read) rest
    | .error e => .error e

/-- The integer under a keyword of a form. -/
def requireInt (f : Form) (keyword : String) : Except Form.Mismatch Int64 :=
  f.require keyword >>= Form.asInt

/-! ## Requests -/

/-- The accounts to create and the total to split among them. -/
structure Opening where
  accounts : List Int64
  totalAmount : Int64
deriving DecidableEq, Repr

/-- An amount to move between two accounts. -/
structure Transfer where
  source : Int64
  target : Int64
  amount : Int64
deriving DecidableEq, Repr

namespace Opening

/-- The request that a form writes. -/
def ofForm (f : Form) : Except Error Opening := do
  let accounts ← (f.require "accounts" >>= Form.asSeq >>= collectInts []).mapError
    Form.Mismatch.error
  if accounts.isEmpty then throw (.malformedRequest "no accounts given")
  let totalAmount ← (requireInt f "total-amount").mapError Form.Mismatch.error
  return ⟨accounts, totalAmount⟩

/-- The request in a body such as `{:accounts [1 2], :total-amount 10}`. -/
def parse (body : String) : Except Error Opening :=
  Edn.read body >>= ofForm

/-- The share of each account: the total over their number, rounded down.  Without accounts there
is none. -/
def balance? (r : Opening) : Option Int64 :=
  if r.accounts.isEmpty then none
  else some (Int64.ofInt (r.totalAmount.toInt.fdiv r.accounts.length))

end Opening

namespace Transfer

/-- The request that a form writes. -/
def ofForm (f : Form) : Except Error Transfer := do
  let source ← (requireInt f "from").mapError Form.Mismatch.error
  let target ← (requireInt f "to").mapError Form.Mismatch.error
  let amount ← (requireInt f "amount").mapError Form.Mismatch.error
  return ⟨source, target, amount⟩

/-- The request in a body such as `{:from 1, :to 3, :amount 5}`. -/
def parse (body : String) : Except Error Transfer :=
  Edn.read body >>= ofForm

end Transfer

/-! ## Account creation -/

/-- How an account creation ends. -/
inductive OpeningOutcome where
  | created (accounts : Nat)
  /-- Rows already existed; nothing was written. -/
  | alreadyInitialized
  /-- Another writer was in the way; nothing was written. -/
  | contended
  /-- The request names no account, so there is no share; nothing was written. -/
  | noShare
deriving DecidableEq, Repr

/-- Inserts one row per account, each with the same balance. -/
def insertAccounts (t : Ticket) (balance : Int64) : List Int64 → DbAction Unit
  | [] => return ()
  | id :: rest => do
    let _ ← Database.exec t (.insert (.integer id) (.integer balance))
    insertAccounts t balance rest

/-- Creates the accounts unless there are rows. -/
def createAccounts (t : Ticket) (r : Opening) : DbAction OpeningOutcome := do
  let rows ← Database.query t .all
  if !rows.isEmpty then return .alreadyInitialized
  match r.balance? with
  | none => return .noShare
  | some balance =>
    insertAccounts t balance r.accounts
    return .created r.accounts.length

/-- A conflict as an outcome. -/
def contendedAsOutcome : Except Error OpeningOutcome → Except Error OpeningOutcome
  | .error .contention => .ok .contended
  | result => result

/-- Creates the accounts in one transaction.  A conflict is an outcome here and no failure; the
caller decides whether to show it. -/
def openAccounts (r : Opening) : DbAction OpeningOutcome :=
  ExceptT.mk ((Database.transact fun t ↦ createAccounts t r).run.bind fun result ↦
    .done (contendedAsOutcome result))

/-! ## Transfers and balances -/

/-- Moves the amount of a request within a transaction. -/
def move (t : Ticket) (r : Transfer) : DbAction Unit := do
  let _ ← Database.exec t (.debit (.integer r.source) (.integer r.amount))
  let _ ← Database.exec t (.credit (.integer r.target) (.integer r.amount))

/-- Moves the amount of a request in one transaction. -/
def transfer (r : Transfer) : DbAction Unit :=
  Database.transact fun t ↦ move t r

/-- A key, or `nil`. -/
def renderKey : Option Int64 → String
  | some key => Numeral.writeInt64 key
  | none => "nil"

/-- An account and its balance. -/
def renderAccount (r : Row) : String :=
  renderKey r.key ++ " " ++ Numeral.writeInt64 r.value

/-- The rows as a map literal, in order. -/
def renderBalances (rows : List Row) : String :=
  "\x7b" ++ String.intercalate ", " (rows.map renderAccount) ++ "\x7d"

/-- All accounts with their balances. -/
def balances : DbAction String := do
  let rows ← Database.queryAlone .all
  return renderBalances rows

end Turnstile.Workload.Bank
