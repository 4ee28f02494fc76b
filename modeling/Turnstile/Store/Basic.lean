import Turnstile.Program
import Turnstile.Store.Lock
import Turnstile.Store.Statement

/-!
# The store

A store with snapshot transactions and a single writer.  A transaction works on the rows that were
committed when it began.  Its first statement takes the writer lock and is refused as a conflict if
the lock is not to be had, or if another writer has committed since the transaction began; readers
never wait.  A commit that follows a statement replaces the committed rows.

Every method is a call that happens at once.  A statement that meets a taken lock may wait for it
when the store has a busy timeout: it is then answered by its place in the queue and finished by a
second call, once the lock has been handed over or the patience is at an end.
-/

namespace Turnstile

/-- A transaction that is still open. -/
structure Store.Transaction where
  /-- The version of the committed rows when the transaction began. -/
  version : Nat
  /-- The rows as the transaction sees them, nothing while there is no table. -/
  table : Option (List Store.Row)
  /-- Whether a statement has succeeded. -/
  dirty : Bool
deriving DecidableEq, Repr

/-- The committed rows, the lock and the open transactions. -/
structure Store where
  /-- How many milliseconds a writer waits for the lock; with none it is refused at once. -/
  busyTimeout : Nat
  /-- The committed rows in insertion order, nothing while there is no table. -/
  table : Option (List Store.Row)
  /-- Counts the commits that wrote, and the creation of the table.  The count stands for a 64-bit
  word, so fewer than 2 ^ 64 of them are meant. -/
  version : Nat
  closed : Bool
  lock : Store.Lock
  transactions : List (Store.Ticket × Store.Transaction)
  nextTicket : Store.Ticket
deriving DecidableEq, Repr

namespace Store

/-- A store without a table. -/
def empty (busyTimeout : Nat) : Store where
  busyTimeout := busyTimeout
  table := none
  version := 0
  closed := false
  lock := .free
  transactions := []
  nextTicket := 1

/-- The committed rows. -/
def rows (s : Store) : List Row :=
  s.table.getD []

/-- An open transaction. -/
def transaction? (s : Store) (t : Ticket) : Option Transaction :=
  s.transactions.lookup t

/-- The store with an open transaction changed. -/
def setTransaction (s : Store) (t : Ticket) (tx : Transaction) : Store :=
  let transactions := s.transactions.map fun entry ↦ if entry.1 = t then (t, tx) else entry
  { s with transactions }

/-- The store after a ticket has given up the lock or its place in the queue. -/
def leaveLock (s : Store) (t : Ticket) : Store :=
  { s with lock := s.lock.leave t }

/-- The store without a transaction, which takes its lock with it. -/
def endTransaction (s : Store) (t : Ticket) : Store :=
  { s.leaveLock t with transactions := s.transactions.filter (·.1 ≠ t) }

/-! ## Calls -/

/-- The answer to a call that may have to wait for the lock. -/
inductive Attempt (α : Type) where
  | settled (result : Except Error α)
  /-- Waiting in the queue under a ticket. -/
  | queued (t : Ticket)

/-- What programs ask of the store. -/
inductive Call where
  | begin
  | exec (t : Ticket) (s : Statement)
  /-- The end of the wait of a statement. -/
  | resume (t : Ticket) (s : Statement)
  | query (t : Ticket) (q : Query)
  | commit (t : Ticket)
  | rollback (t : Ticket)
  | createSchema
  /-- The end of the wait of a schema creation. -/
  | resumeSchema (t : Ticket)
  | close

/-- The calls of the store and their answers. -/
def interface : Interface where
  Call := Call
  Answer
    | .begin => Except Error Ticket
    | .exec _ _ => Attempt Nat
    | .resume _ _ => Except Error Nat
    | .query _ _ => Except Error (List Row)
    | .commit _ => Except Error Unit
    | .rollback _ => Except Error Unit
    | .createSchema => Attempt Unit
    | .resumeSchema _ => Except Error Unit
    | .close => Except Error Unit

/-- Opens a transaction on the committed rows. -/
def begin (s : Store) : Except Error Ticket × Store :=
  if s.closed then (.error Fault.closed.error, s)
  else
    (.ok s.nextTicket,
      { s with
        transactions := s.transactions ++ [(s.nextTicket, ⟨s.version, s.table, false⟩)]
        nextTicket := s.nextTicket + 1 })

/-- Applies a statement for a transaction that holds the lock.  A refused statement changes nothing
and keeps the lock. -/
def applyStatement (s : Store) (t : Ticket) (tx : Transaction) (stmt : Statement) :
    Except Error Nat × Store :=
  match tx.table with
  | none => (.error Fault.missingTable.error, s)
  | some rows =>
    match stmt.apply rows with
    | .error f => (.error f.error, s)
    | .ok (rows, affected) =>
      (.ok affected, s.setTransaction t { tx with table := some rows, dirty := true })

/-- Goes on with a statement whose transaction has just got the lock: if another writer has
committed since the transaction began, the lock is given up again. -/
def execWithLock (s : Store) (t : Ticket) (tx : Transaction) (stmt : Statement) :
    Except Error Nat × Store :=
  if s.version = tx.version then s.applyStatement t tx stmt
  else (.error .contention, s.leaveLock t)

/-- Executes a statement in a transaction, or lines it up for the lock. -/
def exec (s : Store) (t : Ticket) (stmt : Statement) : Attempt Nat × Store :=
  if s.closed then (.settled (.error Fault.closed.error), s)
  else
    match s.transaction? t with
    | none => (.settled (.error Fault.ended.error), s)
    | some tx =>
      if tx.table.isNone then (.settled (.error Fault.missingTable.error), s)
      else
        match s.lock.holder with
        | none =>
          let (result, s) :=
            { s with lock := s.lock.request t : Store }.execWithLock t tx stmt
          (.settled result, s)
        | some holder =>
          if holder = t then
            let (result, s) := s.applyStatement t tx stmt
            (.settled result, s)
          else if s.busyTimeout = 0 then (.settled (.error .contention), s)
          else (.queued t, { s with lock := s.lock.request t })

/-- Ends the wait of a statement: it goes on if the lock has been handed over, and is refused as a
conflict otherwise. -/
def resume (s : Store) (t : Ticket) (stmt : Statement) : Except Error Nat × Store :=
  match s.transaction? t with
  | none => (.error Fault.ended.error, s.leaveLock t)
  | some tx =>
    if s.lock.holder = some t then s.execWithLock t tx stmt
    else (.error .contention, s.leaveLock t)

/-- Selects rows as a transaction sees them. -/
def query (s : Store) (t : Ticket) (q : Query) : Except Error (List Row) × Store :=
  if s.closed then (.error Fault.closed.error, s)
  else
    match s.transaction? t with
    | none => (.error Fault.ended.error, s)
    | some tx =>
      match tx.table with
      | none => (.error Fault.missingTable.error, s)
      | some rows =>
        match q.select rows with
        | .error f => (.error f.error, s)
        | .ok rows => (.ok rows, s)

/-- Ends a transaction; its rows become the committed ones if it has written.  The transaction ends
also when the commit is refused. -/
def commit (s : Store) (t : Ticket) : Except Error Unit × Store :=
  if s.closed then (.error Fault.closed.error, s.endTransaction t)
  else
    match s.transaction? t with
    | none => (.error Fault.ended.error, s)
    | some tx =>
      let s := s.endTransaction t
      (.ok (), if tx.dirty then { s with table := tx.table, version := s.version + 1 } else s)

/-- Ends a transaction without a trace. -/
def rollback (s : Store) (t : Ticket) : Except Error Unit × Store :=
  (.ok (), s.endTransaction t)

/-- Makes the table for a ticket that holds the lock, unless there is one, and gives up the lock. -/
def installTable (s : Store) (t : Ticket) : Store :=
  let s := s.leaveLock t
  match s.table with
  | none => { s with table := some [], version := s.version + 1 }
  | some _ => s

/-- Creates the table, or lines up for the lock. -/
def createSchema (s : Store) : Attempt Unit × Store :=
  if s.closed then (.settled (.error Fault.closed.error), s)
  else
    let t := s.nextTicket
    match s.lock.holder with
    | none =>
      (.settled (.ok ()),
        { s with lock := s.lock.request t, nextTicket := t + 1 : Store }.installTable t)
    | some _ =>
      if s.busyTimeout = 0 then (.settled (.error .contention), s)
      else (.queued t, { s with lock := s.lock.request t, nextTicket := t + 1 })

/-- Ends the wait of a schema creation. -/
def resumeSchema (s : Store) (t : Ticket) : Except Error Unit × Store :=
  if s.lock.holder = some t then (.ok (), s.installTable t)
  else (.error .contention, s.leaveLock t)

/-- The answer to a call and the store after it. -/
def answer : (c : interface.Call) → Store → interface.Answer c × Store
  | .begin, s => s.begin
  | .exec t stmt, s => s.exec t stmt
  | .resume t stmt, s => s.resume t stmt
  | .query t q, s => s.query t q
  | .commit t, s => s.commit t
  | .rollback t, s => s.rollback t
  | .createSchema, s => s.createSchema
  | .resumeSchema t, s => s.resumeSchema t
  | .close, s => (.ok (), { s with closed := true })

/-- The ticket under which a call waits for the lock, if it does. -/
def Call.waitsFor? : Call → Option Ticket
  | .resume t _ => some t
  | .resumeSchema t => some t
  | _ => none

/-- The ticket that a program holds when it is about to make a call. -/
def Call.ticket? : Call → Option Ticket
  | .begin => none
  | .exec t _ => some t
  | .resume t _ => some t
  | .query t _ => some t
  | .commit t => some t
  | .rollback t => some t
  | .createSchema => none
  | .resumeSchema t => some t
  | .close => none

end Store

end Turnstile
