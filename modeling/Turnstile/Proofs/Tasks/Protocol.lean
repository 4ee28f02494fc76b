import Turnstile.Program

/-!
# Programs that keep to a protocol

A protocol says which calls the holder of a state may make, and what each answer does to the state.
A program meets a specification from a state if it makes only calls that are allowed, whatever the
answers, with `D` true of the state at every call and `Q` of the result and the state at the end.

The rules follow the programs: a result, a call, one program after another, and a program in which
each call is replaced by a program for it.
-/

namespace Turnstile

/-- Which calls may be made, and what the answers do to a state. -/
structure Protocol (I : Interface) (σ : Type) where
  Permits : σ → I.Call → Prop
  Follows : σ → (c : I.Call) → I.Answer c → σ → Prop

namespace Program

variable {I J : Interface} {α β σ : Type}

/-- Only allowed calls are made, with `D` at each of them, and `Q` holds at the end. -/
def Meets (P : Protocol I σ) (D : σ → Prop) (Q : α → σ → Prop) : Program I α → σ → Prop
  | done a, s => Q a s
  | call c next, s =>
    D s ∧ P.Permits s c ∧ ∀ a s', P.Follows s c a s' → (next a).Meets P D Q s'

variable {P : Protocol I σ} {D D' : σ → Prop} {s : σ}

theorem Meets.mono {Q Q' : α → σ → Prop} {p : Program I α} (hp : p.Meets P D Q s)
    (hD : ∀ s, D s → D' s) (hQ : ∀ a s, Q a s → Q' a s) : p.Meets P D' Q' s := by
  induction p generalizing s with
  | done a => exact hQ a s hp
  | call c next ih =>
    obtain ⟨hbefore, hpermits, hnext⟩ := hp
    exact ⟨hD s hbefore, hpermits, fun a s' hfollows ↦ ih a (hnext a s' hfollows)⟩

theorem Meets.imp {Q Q' : α → σ → Prop} {p : Program I α} (hp : p.Meets P D Q s)
    (hQ : ∀ a s, Q a s → Q' a s) : p.Meets P D Q' s :=
  hp.mono (fun _ ↦ id) hQ

/-- Of two specifications the result meets both. -/
theorem Meets.and {Q Q' : α → σ → Prop} {p : Program I α} (hp : p.Meets P D Q s)
    (hp' : p.Meets P D' Q' s) : p.Meets P D (fun a s ↦ Q a s ∧ Q' a s) s := by
  induction p generalizing s with
  | done a => exact ⟨hp, hp'⟩
  | call c next ih =>
    obtain ⟨hbefore, hpermits, hnext⟩ := hp
    refine ⟨hbefore, hpermits, fun a s' hfollows ↦ ?_⟩
    exact ih a (hnext a s' hfollows) (hp'.2.2 a s' hfollows)

theorem Meets.bind {Q : β → σ → Prop} {p : Program I α} {f : α → Program I β}
    (hp : p.Meets P D (fun a s ↦ (f a).Meets P D Q s) s) : (p.bind f).Meets P D Q s := by
  induction p generalizing s with
  | done a => exact hp
  | call c next ih =>
    obtain ⟨hbefore, hpermits, hnext⟩ := hp
    exact ⟨hbefore, hpermits, fun a s' hfollows ↦ ih a (hnext a s' hfollows)⟩

/-- Calls may be replaced by programs that do what the protocol says of them. -/
theorem Meets.interpret {P' : Protocol J σ} {handle : (c : I.Call) → Program J (I.Answer c)}
    (hhandle : ∀ c s, D s → P.Permits s c → (handle c).Meets P' D (P.Follows s c) s)
    {Q : α → σ → Prop} {p : Program I α} (hp : p.Meets P D Q s) :
    (p.interpret handle).Meets P' D Q s := by
  induction p generalizing s with
  | done a => exact hp
  | call c next ih =>
    obtain ⟨hbefore, hpermits, hnext⟩ := hp
    apply Meets.bind
    apply (hhandle c s hbefore hpermits).imp
    intro a s' hfollows
    exact ih a (hnext a s' hfollows)

end Program

/-! ## Actions -/

namespace Action

variable {I J : Interface} {α β σ : Type}

/-- The program of an action meets a specification of its result or failure. -/
def Meets (P : Protocol I σ) (D : σ → Prop) (Q : Except Error α → σ → Prop) (p : Action I α)
    (s : σ) : Prop :=
  p.run.Meets P D Q s

variable {P : Protocol I σ} {D D' : σ → Prop} {s : σ}

theorem Meets.mono {Q Q' : Except Error α → σ → Prop} {p : Action I α} (hp : p.Meets P D Q s)
    (hD : ∀ s, D s → D' s) (hQ : ∀ r s, Q r s → Q' r s) : p.Meets P D' Q' s :=
  Program.Meets.mono hp hD hQ

theorem Meets.imp {Q Q' : Except Error α → σ → Prop} {p : Action I α} (hp : p.Meets P D Q s)
    (hQ : ∀ r s, Q r s → Q' r s) : p.Meets P D Q' s :=
  Program.Meets.imp hp hQ

/-- What has to hold after an action that is followed by another: a failure ends both. -/
def Continues (P : Protocol I σ) (D : σ → Prop) (Q : Except Error β → σ → Prop)
    (f : α → Action I β) : Except Error α → σ → Prop
  | .ok a, s => (f a).Meets P D Q s
  | .error e, s => Q (.error e) s

theorem Meets.bind {Q : Except Error β → σ → Prop} {p : Action I α} {f : α → Action I β}
    (hp : p.Meets P D (Continues P D Q f) s) : (p >>= f).Meets P D Q s := by
  apply Program.Meets.bind
  apply Program.Meets.imp hp
  intro r s' hcontinues
  cases r with
  | ok a => exact hcontinues
  | error e => exact hcontinues

/-- The second action goes on from what the first leaves where it succeeds. -/
theorem Meets.andThen {R : Except Error α → σ → Prop} {Q : Except Error β → σ → Prop}
    {p : Action I α} {f : α → Action I β} (hp : p.Meets P D R s)
    (hok : ∀ a s, R (.ok a) s → (f a).Meets P D Q s)
    (herror : ∀ e s, R (.error e) s → Q (.error e) s) : (p >>= f).Meets P D Q s := by
  apply Meets.bind
  apply Meets.imp hp
  intro r s' hr
  cases r with
  | ok a => exact hok a s' hr
  | error e => exact herror e s' hr

theorem Meets.interpret {P' : Protocol J σ} {handle : (c : I.Call) → Program J (I.Answer c)}
    (hhandle : ∀ c s, D s → P.Permits s c → (handle c).Meets P' D (P.Follows s c) s)
    {Q : Except Error α → σ → Prop} {p : Action I α} (hp : p.Meets P D Q s) :
    (p.interpret handle).Meets P' D Q s :=
  Program.Meets.interpret hhandle hp

end Action

end Turnstile
