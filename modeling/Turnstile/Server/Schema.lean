import Turnstile.Service

/-!
# Creating the schema at startup

The schema is created as soon as no other writer holds the lock.  A conflict is tried again after a
fixed pause, a bounded number of times; any other outcome ends the attempts at once.
-/

namespace Turnstile.Server.Schema

/-- What schema creation asks of its surroundings. -/
inductive Call where
  | create
  /-- Notes that another attempt follows. -/
  | countRetry
  /-- Waits, in milliseconds. -/
  | pause (length : Nat)

/-- The calls of schema creation and their answers. -/
def interface : Interface where
  Call := Call
  Answer
    | .create => Except Error Unit
    | .countRetry => Unit
    | .pause _ => Unit

/-- The failure after the last attempt. -/
def stillLocked (attempts : Nat) : Error :=
  .storage ("create schema: database still locked after " ++ Numeral.write attempts ++ " attempts")

/-- Ends with the outcome of an attempt, but goes on after a conflict. -/
def unlessConflict {R : Type} (finish : Except Error Unit → R) (again : Program interface R) :
    Except Error Unit → Program interface R
  | .error .contention => again
  | outcome => .done (finish outcome)

/-- Attempts the creation, with so many more attempts after a conflict. -/
def ensureFrom (attempts backoff : Nat) : Nat → Program interface (Except Error Unit)
  | 0 => .call Call.create <| unlessConflict id <| .done (.error (stillLocked attempts))
  | retries + 1 =>
    .call Call.create <| unlessConflict id <|
      .call Call.countRetry fun _ ↦
        .call (Call.pause backoff) fun _ ↦ ensureFrom attempts backoff retries

/-- Creates the schema in at most `attempts` attempts, but at least one. -/
def ensure (attempts backoff : Nat) : Program interface (Except Error Unit) :=
  ensureFrom attempts backoff (attempts - 1)

/-- The calls on a service. -/
def onService : (c : interface.Call) → Program Service.interface (interface.Answer c)
  | .create => (Service.onStore Database.createSchema).run
  | .countRetry => Service.increment .schemaRetries
  | .pause length => Program.ask (I := Service.interface) (.pause length)

end Turnstile.Server.Schema
