import Turnstile.Error

/-!
# Programs over calls

A component is known to the programs that use it by an interface: the calls it takes and the type
of the answer to each.  A program makes calls one after another, each depending on the answers
before, and ends in a result.  A call happens at once and uninterrupted, so a program says exactly
where others can come between.

A component gives meaning to its calls by a function on its state.  A program runs against that
function, and a program over one interface becomes one over another when every call is replaced by
a program for it.
-/

namespace Turnstile

/-- The calls that a component takes, and the type of the answer to each. -/
structure Interface where
  Call : Type
  Answer : Call → Type

/-- A finite sequence of calls, each chosen by the answers before it, and a result. -/
inductive Program (I : Interface) (α : Type) : Type where
  | done (result : α)
  | call (c : I.Call) (next : I.Answer c → Program I α)

namespace Program

variable {I J : Interface} {α β σ : Type}

/-- The program that goes on with `f` where the first one ends. -/
def bind (p : Program I α) (f : α → Program I β) : Program I β :=
  match p with
  | done a => f a
  | call c next => call c fun answer ↦ (next answer).bind f

instance : Monad (Program I) where
  pure := done
  bind := bind

/-- The program of a single call, with its answer as the result. -/
def ask (c : I.Call) : Program I (I.Answer c) :=
  call c done

/-- The program with every call replaced by the program for it. -/
def interpret (handle : (c : I.Call) → Program J (I.Answer c)) : Program I α → Program J α
  | done a => done a
  | call c next => (handle c).bind fun answer ↦ (next answer).interpret handle

/-- Runs the program from a state, uninterrupted. -/
def run (answer : (c : I.Call) → σ → I.Answer c × σ) : Program I α → σ → α × σ
  | done a, s => (a, s)
  | call c next, s => (next (answer c s).1).run answer (answer c s).2

@[simp]
theorem bind_done (a : α) (f : α → Program I β) : (done a).bind f = f a := rfl

@[simp]
theorem bind_call (c : I.Call) (next : I.Answer c → Program I α) (f : α → Program I β) :
    (call c next).bind f = call c fun answer ↦ (next answer).bind f := rfl

theorem run_bind (answer : (c : I.Call) → σ → I.Answer c × σ) (p : Program I α)
    (f : α → Program I β) (s : σ) :
    (p.bind f).run answer s = (f (p.run answer s).1).run answer (p.run answer s).2 := by
  induction p generalizing s with
  | done a => rfl
  | call c next ih => exact ih _ _

end Program

/-- A program that can fail. -/
abbrev Action (I : Interface) (α : Type) : Type :=
  ExceptT Error (Program I) α

namespace Action

variable {I J : Interface} {α : Type}

/-- The action with every call replaced by the program for it. -/
def interpret (handle : (c : I.Call) → Program J (I.Answer c)) (p : Action I α) : Action J α :=
  ExceptT.mk (p.run.interpret handle)

end Action

end Turnstile
