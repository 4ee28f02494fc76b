import Turnstile.Server.Shutdown

/-!
# Rehearsing a shutdown

A rehearsal shuts down a node of which only the behaviour at the end is known: what becomes of its
handover, and whether it can be closed.  It tells what has been closed and how long it took.
-/

namespace Turnstile.Simulation.Rehearsal

/-- What becomes of a handover. -/
inductive Handover where
  | succeeds
  | fails
  /-- Succeeds after so many milliseconds. -/
  | takes (length : Nat)

/-- What a shutdown asks of the node. -/
inductive Call where
  | pause (length : Nat)
  | closeStore
  | closeNode

/-- The calls of a rehearsal and their answers. -/
def interface : Interface where
  Call := Call
  Answer
    | .pause _ => Unit
    | .closeStore => Except Error Unit
    | .closeNode => Except Error Unit

/-- The node, and what of it has been closed. -/
structure Node where
  closes : Bool
  storeClosed : Bool
  nodeClosed : Bool

/-- A node that refuses to be closed. -/
def closeRefused : Error :=
  .storage "close refused"

/-- The answer to a call and the node after it. -/
def answer : (c : interface.Call) → Node → interface.Answer c × Node
  | .pause _, n => ((), n)
  | .closeStore, n => (.ok (), { n with storeClosed := true })
  | .closeNode, n =>
    if n.closes then (.ok (), { n with nodeClosed := true }) else (.error closeRefused, n)

/-- How long a call takes. -/
def callTime : Call → Nat
  | .pause length => length
  | _ => 0

/-- A handover as a program. -/
def Handover.program : Handover → Program interface (Except Error Unit)
  | succeeds => .done (.ok ())
  | fails => .done (.error (.internal "handover failed"))
  | takes length => .call (Call.pause length) fun _ ↦ .done (.ok ())

/-- The result of a shutdown, the node after it, and the time taken. -/
def run (handover : Handover) (closes : Bool) (grace : Nat) : Except Error Unit × Node × Nat :=
  (Server.shutdown grace handover.program (Program.ask (I := interface) Call.closeStore)
    (Program.ask (I := interface) Call.closeNode)).runAlone answer callTime ⟨closes, false, false⟩

end Turnstile.Simulation.Rehearsal
