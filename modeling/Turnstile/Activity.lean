import Turnstile.Duration
import Turnstile.Program

/-!
# Activities

An activity is what one task does over time.  It runs a program, or waits a while before another
activity, or runs work under a time limit.  Limited work is asked first and the clock second, so
that work that never has to wait is never cut off.  Work that is cut off is dropped where it waits;
what follows it is told that there is no result, and in either case how long the work has taken.
-/

namespace Turnstile

/-- What a task does over time; times are in milliseconds. -/
inductive Activity (I : Interface) (R : Type) : Type 1 where
  | run (p : Program I R)
  | limited {α : Type} (limit : Nat) (work : Program I α)
      (finish : Option α → Duration → Program I R)
  | after (pause : Nat) (next : Activity I R)

namespace Activity

variable {I J : Interface} {R S : Type}

/-- The activity with its result changed. -/
def map (f : R → S) : Activity I R → Activity I S
  | run p => run (p.bind fun r ↦ .done (f r))
  | limited limit work finish =>
    limited limit work fun result elapsed ↦ (finish result elapsed).bind fun r ↦ .done (f r)
  | after pause next => after pause (next.map f)

/-- The activity with every call replaced by the program for it. -/
def interpret (handle : (c : I.Call) → Program J (I.Answer c)) : Activity I R → Activity J R
  | run p => run (p.interpret handle)
  | limited limit work finish =>
    limited limit (work.interpret handle) fun result elapsed ↦
      (finish result elapsed).interpret handle
  | after pause next => after pause (next.interpret handle)

end Activity

/-! ## Running alone

A task that has its surroundings to itself is held up by nothing but the time that its own calls
take.
-/

namespace Program

variable {I : Interface} {α σ : Type}

/-- Runs a program from a state, given how long each call takes.  The result comes with the state
after it and the time taken. -/
def runTimed (answer : (c : I.Call) → σ → I.Answer c × σ) (cost : I.Call → Nat) :
    Program I α → σ → α × σ × Nat
  | .done a, s => (a, s, 0)
  | .call c next, s =>
    let (result, after, elapsed) := (next (answer c s).1).runTimed answer cost (answer c s).2
    (result, after, cost c + elapsed)

/-- Runs a program under a time limit: a call that would end after the limit is cut off. -/
def runWithin (answer : (c : I.Call) → σ → I.Answer c × σ) (cost : I.Call → Nat) :
    Nat → Program I α → σ → Option α × σ × Nat
  | _, .done a, s => (some a, s, 0)
  | limit, .call c next, s =>
    if limit < cost c then (none, s, limit)
    else
      let (result, after, elapsed) :=
        (next (answer c s).1).runWithin answer cost (limit - cost c) (answer c s).2
      (result, after, cost c + elapsed)

end Program

/-- Runs an activity alone, given how long each call takes. -/
def Activity.runAlone {I : Interface} {R σ : Type}
    (answer : (c : I.Call) → σ → I.Answer c × σ) (cost : I.Call → Nat) :
    Activity I R → σ → R × σ × Nat
  | .run p, s => p.runTimed answer cost s
  | .limited limit work finish, s =>
    let (result, s, worked) := work.runWithin answer cost limit s
    let (result, s, elapsed) := (finish result (.ofMillis worked)).runTimed answer cost s
    (result, s, worked + elapsed)
  | .after pause next, s =>
    let (result, s, elapsed) := next.runAlone answer cost s
    (result, s, pause + elapsed)

end Turnstile
