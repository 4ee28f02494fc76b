/-!
# The writer lock

At most one ticket holds the lock.  Others wait in the order in which they asked; whoever leaves
hands the lock to the first of them.
-/

namespace Turnstile.Store

/-- A name for one use of the lock. -/
abbrev Ticket := Nat

/-- Who holds the lock and who waits for it. -/
structure Lock where
  holder : Option Ticket
  waiting : List Ticket
deriving DecidableEq, Repr

namespace Lock

/-- A lock that nobody holds. -/
def free : Lock := ⟨none, []⟩

/-- The lock after a ticket has asked for it: it holds the lock if nobody does, else it waits. -/
def request (l : Lock) (t : Ticket) : Lock :=
  match l.holder with
  | none => { l with holder := some t }
  | some _ => { l with waiting := l.waiting ++ [t] }

/-- The lock after a ticket has given it up, or has given up waiting for it. -/
def leave (l : Lock) (t : Ticket) : Lock :=
  if l.holder = some t then ⟨l.waiting.head?, l.waiting.tail⟩
  else { l with waiting := l.waiting.filter (· ≠ t) }

end Lock

end Turnstile.Store
