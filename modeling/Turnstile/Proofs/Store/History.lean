import Mathlib.Logic.Function.Basic
import Turnstile.Proofs.Store.Replay
import Turnstile.Store.Basic

/-!
# A store in use

Transactions and schema creations share a store; their calls come one at a time and in any order.
A history keeps, beside the store, what has happened so far: for every ticket in use the rows that
its transaction started from and the statements that have succeeded in it, and the transactions that
have been committed, in the order of their commits.  None of this is consulted by the store.

A ticket belongs to whoever it was given to.  A transaction can be used while it is open and no
statement of it waits; a statement that waits for the lock can only come to the end of its wait; and
a ticket can be dropped at any moment, which ends its transaction or its wait.
-/

namespace Turnstile.Store

/-- What has happened in a transaction. -/
structure Session where
  /-- How many transactions had been committed when it began. -/
  begun : Nat
  /-- The committed rows when it began, nothing while there was no table. -/
  base : Option (List Row)
  /-- The statements that have succeeded in it, in order. -/
  done : List Statement
  /-- The statement of it that waits for the lock. -/
  waiting : Option Statement
deriving DecidableEq, Repr

namespace Session

/-- The rows that the transaction started from. -/
def rows (σ : Session) : List Row :=
  σ.base.getD []

/-- The rows that it started from with its own successful statements applied. -/
def view (σ : Session) : Option (List Row) :=
  σ.base.bind (replay σ.done)

/-- The transaction after another successful statement. -/
def add (σ : Session) (stmt : Statement) : Session :=
  { σ with done := σ.done ++ [stmt], waiting := none }

/-- The transaction while a statement waits. -/
def queue (σ : Session) (stmt : Statement) : Session :=
  { σ with waiting := some stmt }

/-- The transaction after a wait that came to nothing. -/
def rest (σ : Session) : Session :=
  { σ with waiting := none }

/-- A transaction that has done nothing sees the rows that it started from. -/
theorem view_of_done {σ : Session} (hdone : σ.done = []) : σ.view = σ.base := by
  rw [view, hdone]
  exact Option.bind_fun_some σ.base

theorem base_of_view {σ : Session} {rows : List Row} (hdone : σ.done = [])
    (hview : σ.view = some rows) : σ.base = some rows :=
  (view_of_done hdone).symm.trans hview

end Session

/-- What a ticket is used for. -/
inductive Use where
  | transaction (σ : Session)
  /-- A schema creation that waits for the lock. -/
  | creation
deriving DecidableEq, Repr

/-- A store with what has happened to it. -/
structure History where
  store : Store
  uses : Ticket → Option Use
  /-- The committed transactions in the order of their commits. -/
  commits : List Session

/-- The statements of transactions, one whole transaction after another. -/
def statements (commits : List Session) : List Statement :=
  commits.flatMap Session.done

/-- What can happen to a store. -/
inductive Move where
  | call (c : Call)
  /-- The holder of a ticket is dropped. -/
  | drop (t : Ticket)

namespace History

/-- The history of a store that has just been made. -/
def start (busyTimeout : Nat) : History where
  store := .empty busyTimeout
  uses := fun _ ↦ none
  commits := []

/-- The history with another use of a ticket. -/
def setUse (h : History) (t : Ticket) (use : Option Use) : History :=
  { h with uses := Function.update h.uses t use }

/-- The history with a change to an open transaction. -/
def change (h : History) (t : Ticket) (f : Session → Session) : History :=
  match h.uses t with
  | some (.transaction σ) => h.setUse t (some (.transaction (f σ)))
  | _ => h

/-- The history after an open transaction has been committed. -/
def settle (h : History) (t : Ticket) : History :=
  match h.uses t with
  | some (.transaction σ) => { h.setUse t none with commits := h.commits ++ [σ] }
  | _ => h

/-- Notes a call with its answer. -/
def note (h : History) : (c : interface.Call) → interface.Answer c → History
  | .begin, .ok t =>
    h.setUse t (some (.transaction ⟨h.commits.length, h.store.table, [], none⟩))
  | .begin, .error _ => h
  | .exec t stmt, .settled (.ok _) => h.change t (·.add stmt)
  | .exec _ _, .settled (.error _) => h
  | .exec t stmt, .queued _ => h.change t (·.queue stmt)
  | .resume t stmt, .ok _ => h.change t (·.add stmt)
  | .resume t _, .error _ => h.change t (·.rest)
  | .query _ _, _ => h
  | .commit t, .ok _ => h.settle t
  | .commit t, .error _ => h.setUse t none
  | .rollback t, _ => h.setUse t none
  | .createSchema, .settled _ => h
  | .createSchema, .queued t => h.setUse t (some .creation)
  | .resumeSchema t, _ => h.setUse t none
  | .close, _ => h

/-- The history after a call. -/
def call (h : History) (c : Call) : History :=
  { h.note c (Store.answer c h.store).1 with store := (Store.answer c h.store).2 }

/-- The history after the holder of a ticket has been dropped. -/
def drop (h : History) (t : Ticket) : History :=
  { h.setUse t none with store := h.store.endTransaction t }

/-- The history after a move. -/
def after (h : History) : Move → History
  | .call c => h.call c
  | .drop t => h.drop t

/-- A transaction that is open, none of whose statements waits. -/
def Idle (h : History) (t : Ticket) : Prop :=
  ∃ σ, h.uses t = some (.transaction σ) ∧ σ.waiting = none

/-- A transaction that is open and has a statement waiting for the lock. -/
def Waits (h : History) (t : Ticket) (stmt : Statement) : Prop :=
  ∃ σ, h.uses t = some (.transaction σ) ∧ σ.waiting = some stmt

/-- The calls that the holders of tickets can make. -/
def Allows (h : History) : Call → Prop
  | .begin => True
  | .exec t _ => h.Idle t
  | .resume t stmt => h.Waits t stmt
  | .query t _ => h.Idle t
  | .commit t => h.Idle t
  | .rollback t => h.Idle t
  | .createSchema => True
  | .resumeSchema t => h.uses t = some .creation
  | .close => True

/-- The moves that can come next. -/
def Legal (h : History) : Move → Prop
  | .call c => h.Allows c
  | .drop t => h.uses t ≠ none

instance (h : History) (t : Ticket) : Decidable (h.Idle t) :=
  match huse : h.uses t with
  | some (.transaction σ) => decidable_of_iff (σ.waiting = none) (by simp [Idle, huse])
  | some .creation => isFalse (by simp [Idle, huse])
  | none => isFalse (by simp [Idle, huse])

instance (h : History) (t : Ticket) (stmt : Statement) : Decidable (h.Waits t stmt) :=
  match huse : h.uses t with
  | some (.transaction σ) => decidable_of_iff (σ.waiting = some stmt) (by simp [Waits, huse])
  | some .creation => isFalse (by simp [Waits, huse])
  | none => isFalse (by simp [Waits, huse])

instance (h : History) : (c : Call) → Decidable (h.Allows c)
  | .begin => isTrue trivial
  | .exec t _ => inferInstanceAs (Decidable (h.Idle t))
  | .resume t stmt => inferInstanceAs (Decidable (h.Waits t stmt))
  | .query t _ => inferInstanceAs (Decidable (h.Idle t))
  | .commit t => inferInstanceAs (Decidable (h.Idle t))
  | .rollback t => inferInstanceAs (Decidable (h.Idle t))
  | .createSchema => isTrue trivial
  | .resumeSchema t => inferInstanceAs (Decidable (h.uses t = some .creation))
  | .close => isTrue trivial

instance (h : History) : (m : Move) → Decidable (h.Legal m)
  | .call c => inferInstanceAs (Decidable (h.Allows c))
  | .drop t => inferInstanceAs (Decidable (h.uses t ≠ none))

/-- The history after moves one after another, nothing if one of them cannot come. -/
def run (h : History) : List Move → Option History
  | [] => some h
  | m :: rest => if h.Legal m then (h.after m).run rest else none

/-- The histories of a store with a given busy timeout. -/
inductive Reachable (busyTimeout : Nat) : History → Prop where
  | start : Reachable busyTimeout (start busyTimeout)
  | move {h : History} (m : Move) : Reachable busyTimeout h → h.Legal m →
      Reachable busyTimeout (h.after m)

/-- The history of a store that has been given its table. -/
def withTable (busyTimeout : Nat) : History :=
  (start busyTimeout).call .createSchema

theorem Reachable.withTable (busyTimeout : Nat) : Reachable busyTimeout (withTable busyTimeout) :=
  Reachable.start.move (.call .createSchema) trivial

/-- A history can be reached if moves one after another lead to it. -/
theorem Reachable.run {busyTimeout : Nat} {h h' : History} (hreach : Reachable busyTimeout h)
    {moves : List Move} (hrun : h.run moves = some h') : Reachable busyTimeout h' := by
  induction moves generalizing h with
  | nil => exact Option.some.inj hrun ▸ hreach
  | cons m rest ih =>
    unfold History.run at hrun
    split at hrun
    case isTrue hlegal => exact ih (hreach.move m hlegal) hrun
    case isFalse => simp at hrun

end History

end Turnstile.Store
