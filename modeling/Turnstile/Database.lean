import Turnstile.Store.Basic

/-!
# Using the store

The calls of the store as actions, with the wait for the lock inside them, and the two ways in which
programs use them: a body of statements in one transaction, and a single statement or query in a
transaction of its own.  A transaction is committed exactly when its body succeeds.
-/

namespace Turnstile.Database

open Store (Ticket Statement Query Row)

/-- Actions on the store. -/
abbrev DbAction (α : Type) : Type :=
  Action Store.interface α

def begin : DbAction Ticket :=
  ExceptT.mk (Program.ask (I := Store.interface) .begin)

/-- Executes a statement, waiting for the lock if the store lets it. -/
def exec (t : Ticket) (s : Statement) : DbAction Nat :=
  ExceptT.mk (Program.call (I := Store.interface) (.exec t s) fun
    | .settled result => .done result
    | .queued _ => Program.ask (I := Store.interface) (.resume t s))

def query (t : Ticket) (q : Query) : DbAction (List Row) :=
  ExceptT.mk (Program.ask (I := Store.interface) (.query t q))

def commit (t : Ticket) : DbAction Unit :=
  ExceptT.mk (Program.ask (I := Store.interface) (.commit t))

def rollback (t : Ticket) : DbAction Unit :=
  ExceptT.mk (Program.ask (I := Store.interface) (.rollback t))

/-- Creates the table unless there is one, waiting for the lock if the store lets it. -/
def createSchema : DbAction Unit :=
  ExceptT.mk (Program.call (I := Store.interface) .createSchema fun
    | .settled result => .done result
    | .queued t => Program.ask (I := Store.interface) (.resumeSchema t))

def close : DbAction Unit :=
  ExceptT.mk (Program.ask (I := Store.interface) .close)

/-- Ends a transaction by the result of its body: committed after a success, whose value counts
only then, and rolled back after a failure. -/
def complete {α : Type} (t : Ticket) (result : Except Error α) : DbAction α :=
  match result with
  | .ok a => do
    commit t
    return a
  | .error e => do
    rollback t
    throw e

/-- Runs a body in a transaction of its own. -/
def transact {α : Type} (body : Ticket → DbAction α) : DbAction α := do
  let t ← begin
  let result ← ExceptT.lift (body t).run
  complete t result

/-- Executes one statement in a transaction of its own. -/
def execAlone (s : Statement) : DbAction Nat :=
  transact fun t ↦ exec t s

/-- Runs one query in a transaction of its own. -/
def queryAlone (q : Query) : DbAction (List Row) :=
  transact fun t ↦ query t q

end Turnstile.Database
