import Turnstile.Program

/-!
# Waiting for a cluster to settle

A client polls for readiness until it is told so or has polled a given number of times, with a pause
between two polls and none after the last.
-/

namespace Turnstile.Client.Waiting

/-- What waiting asks of its surroundings. -/
inductive Call where
  /-- Asks once whether the cluster is ready. -/
  | poll
  /-- Waits, in milliseconds. -/
  | pause (length : Nat)

/-- The calls of waiting and their answers. -/
def interface : Interface where
  Call := Call
  Answer
    | .poll => Except Error String
    | .pause _ => Unit

/-- The failure after the last poll, which tells what that poll said. -/
def notReady (attempts : Nat) (last : Error) : Error :=
  .timeout ("cluster not ready after " ++ Numeral.write attempts ++ " attempts: " ++ last.message)

/-- Ends once the cluster is ready, but goes on after a failure. -/
def unlessReady (again : Error → Program interface (Except Error Unit)) :
    Except Error String → Program interface (Except Error Unit)
  | .ok _ => .done (.ok ())
  | .error e => again e

/-- Polls, with so many more polls after a failure. -/
def pollFrom (attempts interval : Nat) : Nat → Program interface (Except Error Unit)
  | 0 => .call Call.poll <| unlessReady fun last ↦ .done (.error (notReady attempts last))
  | more + 1 =>
    .call Call.poll <| unlessReady fun _ ↦
      .call (Call.pause interval) fun _ ↦ pollFrom attempts interval more

/-- Polls at most `attempts` times. -/
def waitReady (attempts interval : Nat) : Program interface (Except Error Unit) :=
  match attempts with
  | 0 => .done (.error (notReady 0 (.other "no attempt made")))
  | more + 1 => pollFrom (more + 1) interval more

end Turnstile.Client.Waiting
