import Turnstile.Server.Schema

/-!
# Attempts at the schema

The schema is attempted until there is no conflict, or until the attempts are used up; the first one is
always made.  Before every further attempt the retry is counted and the pause is kept, so there is one
of either for each attempt but the last.  The number of an attempt stays within the word in which the
limit is given.
-/

namespace Turnstile.Server.Schema

open Metrics (Registry)

/-- What the attempts have led to: how many there were, the pauses, and the counts of the process. -/
structure Surroundings where
  calls : Nat
  pauses : List Nat
  metrics : Registry

/-- Answers for schema creation; the attempts have the outcomes of a sequence, one after another. -/
def answer (outcomes : Nat → Except Error Unit) :
    (c : interface.Call) → Surroundings → interface.Answer c × Surroundings
  | .create, s => (outcomes s.calls, { s with calls := s.calls + 1 })
  | .countRetry, s => ((), { s with metrics := s.metrics.increment .schemaRetries })
  | .pause length, s => ((), { s with pauses := s.pauses ++ [length] })

/-- The surroundings after an attempt and `retries` more, with a pause before each of these. -/
def Surroundings.after (s : Surroundings) (backoff retries : Nat) : Surroundings where
  calls := s.calls + retries + 1
  pauses := s.pauses ++ List.replicate retries backoff
  metrics := { s.metrics with schemaRetries := s.metrics.schemaRetries + retries }

/-- The surroundings when a conflict has been noted and its pause is over. -/
def Surroundings.retried (s : Surroundings) (backoff : Nat) : Surroundings where
  calls := s.calls + 1
  pauses := s.pauses ++ [backoff]
  metrics := s.metrics.increment .schemaRetries

/-- How at most `limit` attempts end, and after how many: with the first outcome that is no conflict, or
with a failure of their own. -/
inductive Ends (outcomes : Nat → Except Error Unit) (limit : Nat) (failure : Error) :
    Nat → Except Error Unit → Prop where
  | settled {k : Nat} (hlimit : k < limit) (hbefore : ∀ i < k, outcomes i = .error .contention)
      (hsettled : outcomes k ≠ .error .contention) :
      Ends outcomes limit failure (k + 1) (outcomes k)
  | exhausted (hall : ∀ i < limit, outcomes i = .error .contention) :
      Ends outcomes limit failure limit (.error failure)

variable {outcomes : Nat → Except Error Unit}

/-- A conflict is followed by the attempts that are left. -/
theorem Ends.cons {limit calls : Nat} {failure : Error} {result : Except Error Unit}
    (hfirst : outcomes 0 = .error .contention)
    (hends : Ends (fun i ↦ outcomes (i + 1)) limit failure calls result) :
    Ends outcomes (limit + 1) failure (calls + 1) result := by
  have hcons {k : Nat} (hrest : ∀ i < k, outcomes (i + 1) = .error .contention) :
      ∀ i < k + 1, outcomes i = .error .contention := by
    intro i hi
    cases i with
    | zero => exact hfirst
    | succ i => exact hrest i (Nat.lt_of_succ_lt_succ hi)
  cases hends with
  | @settled k hlimit hbefore hsettled =>
    exact .settled (k := k + 1) (Nat.succ_lt_succ hlimit) (hcons hbefore) hsettled
  | exhausted hall => exact .exhausted (hcons hall)

/-! ## The attempts -/

section Attempts

variable {attempts backoff : Nat} {s : Surroundings}

theorem Surroundings.after_retried (retries : Nat) :
    (s.retried backoff).after backoff retries = s.after backoff (retries + 1) := by
  simp only [after, retried, Registry.increment, List.replicate_succ, List.append_assoc,
    List.singleton_append, Surroundings.mk.injEq, Registry.mk.injEq, true_and]
  omega

theorem unlessConflict_of_ne {R : Type} {finish : Except Error Unit → R}
    {again : Program interface R} {outcome : Except Error Unit}
    (hsettled : outcome ≠ .error .contention) :
    unlessConflict finish again outcome = .done (finish outcome) := by
  unfold unlessConflict
  split
  case h_1 => exact absurd rfl hsettled
  case h_2 => rfl

theorem run_create (next : Except Error Unit → Program interface (Except Error Unit)) :
    (Program.call Call.create next).run (answer outcomes) s =
      (next (outcomes s.calls)).run (answer outcomes) { s with calls := s.calls + 1 } :=
  rfl

theorem exists_ensureFrom_eq (attempts backoff retries : Nat) :
    ∃ again, ensureFrom attempts backoff retries = .call Call.create (unlessConflict id again) := by
  cases retries <;> exact ⟨_, rfl⟩

theorem Surroundings.after_zero : s.after backoff 0 = { s with calls := s.calls + 1 } := by
  simp [after]

/-- Without a conflict no attempt follows. -/
theorem run_ensureFrom_of_ne (hsettled : outcomes s.calls ≠ .error .contention) (retries : Nat) :
    (ensureFrom attempts backoff retries).run (answer outcomes) s =
      (outcomes s.calls, s.after backoff 0) := by
  obtain ⟨again, heq⟩ := exists_ensureFrom_eq attempts backoff retries
  rw [heq, run_create, unlessConflict_of_ne hsettled, Surroundings.after_zero]
  rfl

/-- After the last conflict the attempts fail. -/
theorem run_ensureFrom_zero (hconflict : outcomes s.calls = .error .contention) :
    (ensureFrom attempts backoff 0).run (answer outcomes) s =
      (.error (stillLocked attempts), s.after backoff 0) := by
  rw [ensureFrom, run_create, hconflict, Surroundings.after_zero]
  rfl

/-- After any other conflict they go on. -/
theorem run_ensureFrom_succ (hconflict : outcomes s.calls = .error .contention) (retries : Nat) :
    (ensureFrom attempts backoff (retries + 1)).run (answer outcomes) s =
      (ensureFrom attempts backoff retries).run (answer outcomes) (s.retried backoff) := by
  rw [ensureFrom, run_create, hconflict]
  rfl

/-- Wherever the attempts begin, they end as the outcomes from there on say. -/
theorem ends_ensureFrom (outcomes : Nat → Except Error Unit) (attempts backoff retries : Nat)
    (s : Surroundings) :
    ∃ more result,
      Ends (fun i ↦ outcomes (s.calls + i)) (retries + 1) (stillLocked attempts) (more + 1) result ∧
        (ensureFrom attempts backoff retries).run (answer outcomes) s =
          (result, s.after backoff more) := by
  induction retries generalizing s with
  | zero =>
    by_cases hconflict : outcomes s.calls = .error .contention
    · refine ⟨0, _, .exhausted fun i hi ↦ ?_, run_ensureFrom_zero hconflict⟩
      rw [Nat.lt_one_iff.1 hi]
      exact hconflict
    · exact ⟨0, _, .settled Nat.one_pos nofun hconflict, run_ensureFrom_of_ne hconflict 0⟩
  | succ retries ih =>
    by_cases hconflict : outcomes s.calls = .error .contention
    · obtain ⟨more, result, hends, hrun⟩ := ih (s.retried backoff)
      refine ⟨more + 1, result, .cons hconflict ?_, ?_⟩
      · have hshift : (fun i ↦ outcomes ((s.retried backoff).calls + i)) =
            fun i ↦ outcomes (s.calls + (i + 1)) :=
          funext fun i ↦ congrArg outcomes (Nat.add_right_comm s.calls 1 i)
        rwa [hshift] at hends
      · rw [run_ensureFrom_succ hconflict, hrun, Surroundings.after_retried]
    · exact ⟨0, _, .settled (Nat.succ_pos _) nofun hconflict, run_ensureFrom_of_ne hconflict _⟩

end Attempts

/-! ## The number of an attempt -/

section Numbers

theorem toNat_succ {attempt : UInt32} (hfits : attempt.toNat + 1 < UInt32.size) :
    (attempt + 1).toNat = attempt.toNat + 1 := by
  rw [UInt32.toNat_add]
  exact Nat.mod_eq_of_lt hfits

/-- The attempts counted upwards, in the word in which their limit is given.  There is no result if
the number of the next attempt does not fit that word. -/
def numbered (attempts : UInt32) (backoff : Nat) (attempt : UInt32) :
    Program interface (Option (Except Error Unit)) :=
  .call Call.create <| unlessConflict some <|
    if attempt < attempts then
      .call Call.countRetry fun _ ↦
        .call (Call.pause backoff) fun _ ↦
          if attempt.toNat + 1 < UInt32.size then numbered attempts backoff (attempt + 1)
          else .done none
    else .done (some (.error (stillLocked attempts.toNat)))
termination_by attempts.toNat - attempt.toNat
decreasing_by
  have hbelow : attempt.toNat < attempts.toNat := UInt32.lt_iff_toNat_lt.1 ‹_›
  rw [toNat_succ ‹_›]
  omega

/-- Two counts of the attempts agree if they agree on what follows a conflict. -/
theorem create_eq_bind {again : Program interface (Option (Except Error Unit))}
    {again' : Program interface (Except Error Unit)}
    (hagain : again = again'.bind fun result ↦ .done (some result)) :
    Program.call (I := interface) Call.create (unlessConflict some again) =
      (Program.call (I := interface) Call.create (unlessConflict id again')).bind
        fun result ↦ .done (some result) := by
  refine congrArg (Program.call (I := interface) Call.create)
    (funext fun (outcome : Except Error Unit) ↦ ?_)
  by_cases heq : outcome = .error .contention
  · rw [heq]
    exact hagain
  · rw [unlessConflict_of_ne heq, unlessConflict_of_ne heq]
    rfl

/-- Counted upwards, there are as many attempts as counted downwards. -/
theorem numbered_eq {attempts attempt : UInt32} (backoff retries : Nat)
    (hretries : attempts.toNat - attempt.toNat = retries) :
    numbered attempts backoff attempt =
      (ensureFrom attempts.toNat backoff retries).bind fun result ↦ .done (some result) := by
  induction retries generalizing attempt with
  | zero =>
    have hlast : ¬ attempt < attempts := by
      rw [UInt32.lt_iff_toNat_lt]
      omega
    rw [numbered, ensureFrom, if_neg hlast]
    exact create_eq_bind rfl
  | succ retries ih =>
    have hbelow : attempt < attempts := by
      rw [UInt32.lt_iff_toNat_lt]
      omega
    have hfits : attempt.toNat + 1 < UInt32.size := by
      have hword : attempts.toNat < UInt32.size := attempts.toNat_lt
      omega
    have hnext : attempts.toNat - (attempt + 1).toNat = retries := by
      rw [toNat_succ hfits]
      omega
    rw [numbered, ensureFrom, if_pos hbelow, if_pos hfits, ih hnext]
    exact create_eq_bind rfl

end Numbers

/-- The schema is attempted until there is no conflict, at most as often as the limit says but at least
once; if all of these are conflicts, a failure of storage says how many were allowed.  Every attempt
but the last is followed by one count of a retry and one pause, and the number of an attempt always
fits its word. -/
theorem retried_on_conflict (attempts : UInt32) (backoff : Nat) (outcomes : Nat → Except Error Unit)
    (metrics : Registry) :
    (∃ retries result,
      Ends outcomes (max 1 attempts.toNat)
          (.storage ("create schema: database still locked after " ++
            Numeral.write attempts.toNat ++ " attempts"))
          (retries + 1) result ∧
        (ensure attempts.toNat backoff).run (answer outcomes) ⟨0, [], metrics⟩ =
          (result,
            { calls := retries + 1
              pauses := List.replicate retries backoff
              metrics := { metrics with schemaRetries := metrics.schemaRetries + retries } })) ∧
      numbered attempts backoff 1 =
        (ensure attempts.toNat backoff).bind fun result ↦ .done (some result) := by
  have hlimit : attempts.toNat - 1 + 1 = max 1 attempts.toNat := by omega
  constructor
  · obtain ⟨retries, result, hends, hrun⟩ :=
      ends_ensureFrom outcomes attempts.toNat backoff (attempts.toNat - 1) ⟨0, [], metrics⟩
    simp only [Nat.zero_add, hlimit] at hends
    refine ⟨retries, result, hends, hrun.trans ?_⟩
    simp only [Surroundings.after, Nat.zero_add, List.nil_append]
  · exact numbered_eq backoff (attempts.toNat - 1) rfl

/-- The outcomes while another writer holds the lock for so many attempts. -/
def held (attempts i : Nat) : Except Error Unit :=
  if i < attempts then .error .contention else .ok ()

/-- The lock is given up before the third attempt; it is held for longer than there are attempts; there
are no attempts, and one is made. -/
theorem retried_on_conflict_runs :
    (Ends (held 2) 10 (.storage "create schema: database still locked after 10 attempts") 3 (.ok ()) ∧
      (ensure 10 20).run (answer (held 2)) ⟨0, [], .empty⟩ =
        (.ok (), ⟨3, [20, 20], ⟨[], [], 0, 0, 2⟩⟩)) ∧
    (Ends (held 5) 3 (.storage "create schema: database still locked after 3 attempts") 3
        (.error (.storage "create schema: database still locked after 3 attempts")) ∧
      (ensure 3 1).run (answer (held 5)) ⟨0, [], .empty⟩ =
        (.error (.storage "create schema: database still locked after 3 attempts"),
          ⟨3, [1, 1], ⟨[], [], 0, 0, 2⟩⟩)) ∧
    (Ends (held 1) 1 (.storage "create schema: database still locked after 0 attempts") 1
        (.error (.storage "create schema: database still locked after 0 attempts")) ∧
      (ensure 0 1).run (answer (held 1)) ⟨0, [], .empty⟩ =
        (.error (.storage "create schema: database still locked after 0 attempts"),
          ⟨1, [], ⟨[], [], 0, 0, 0⟩⟩)) := by
  have hends (attempts : UInt32) (backoff : Nat) (outcomes : Nat → Except Error Unit)
      {result : Except Error Unit} {s : Surroundings} {text : String}
      (hrun : (ensure attempts.toNat backoff).run (answer outcomes) ⟨0, [], .empty⟩ = (result, s))
      (htext : "create schema: database still locked after " ++ Numeral.write attempts.toNat ++
        " attempts" = text) :
      Ends outcomes (max 1 attempts.toNat) (.storage text) s.calls result := by
    obtain ⟨⟨retries, result', hends, hrun'⟩, _⟩ :=
      retried_on_conflict attempts backoff outcomes .empty
    obtain ⟨rfl, rfl⟩ := Prod.mk.inj (hrun.symm.trans hrun')
    exact htext ▸ hends
  refine ⟨⟨?_, rfl⟩, ⟨?_, rfl⟩, ⟨?_, rfl⟩⟩
  · exact hends 10 20 (held 2) rfl (by decide)
  · exact hends 3 1 (held 5) rfl (by decide)
  · exact hends 0 1 (held 1) rfl (by decide)

end Turnstile.Server.Schema
