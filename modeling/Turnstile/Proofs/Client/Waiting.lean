import Mathlib.Data.List.Basic
import Turnstile.Client.Basic
import Turnstile.Client.Waiting

/-!
# Polls and pauses

Waiting polls until the cluster is ready, or until the attempts are used up; with no attempt it does not
poll at all.  Its calls are the polls with one pause between any two, so the last of them is a poll.  A
failure tells how many attempts there were and what the last poll said.
-/

namespace Turnstile.Client.Waiting

/-- How many of the calls are polls. -/
def polls (calls : List Call) : Nat :=
  calls.countP fun
    | .poll => true
    | .pause _ => false

/-- The lengths of the pauses among the calls. -/
def pauses (calls : List Call) : List Nat :=
  calls.filterMap fun
    | .poll => none
    | .pause length => some length

/-- Answers for waiting that remember the calls; the polls have the outcomes of a sequence, one after
another. -/
def answer (outcomes : Nat → Except Error String) :
    (c : interface.Call) → List Call → interface.Answer c × List Call
  | .poll, calls => (outcomes (polls calls), calls ++ [.poll])
  | .pause length, calls => ((), calls ++ [.pause length])

/-- So many polls, with a pause between any two. -/
def rounds (interval count : Nat) : List Call :=
  (List.replicate count Call.poll).intersperse (.pause interval)

/-- How at most `limit` polls end, and after how many: with the first that finds the cluster ready, or
with a failure of their own. -/
inductive Ends (outcomes : Nat → Except Error String) (attempts : Nat) :
    Nat → Nat → Except Error Unit → Prop where
  | ready {k limit : Nat} (hlimit : k < limit) (hbefore : ∀ i < k, ¬ (outcomes i).isOk)
      (hready : (outcomes k).isOk) : Ends outcomes attempts limit (k + 1) (.ok ())
  | unready {last : Nat} {e : Error} (hbefore : ∀ i < last, ¬ (outcomes i).isOk)
      (hlast : outcomes last = .error e) :
      Ends outcomes attempts (last + 1) (last + 1) (.error (.timeout
        ("cluster not ready after " ++ Numeral.write attempts ++ " attempts: " ++ e.message)))
  | idle : Ends outcomes attempts 0 0 (.error (.timeout
      ("cluster not ready after " ++ Numeral.write attempts ++ " attempts: no attempt made")))

/-! ## Rounds -/

section Rounds

variable (interval : Nat)

theorem rounds_add_two (count : Nat) :
    rounds interval (count + 2) = .poll :: .pause interval :: rounds interval (count + 1) :=
  rfl

theorem polls_rounds : ∀ count, polls (rounds interval count) = count
  | 0 => rfl
  | 1 => rfl
  | count + 2 => by
    have hfirst (calls : List Call) : polls (.poll :: .pause interval :: calls) = polls calls + 1 := by
      simp [polls]
    rw [rounds_add_two, hfirst, polls_rounds]

theorem pauses_rounds : ∀ count, pauses (rounds interval count) = List.replicate (count - 1) interval
  | 0 => rfl
  | 1 => rfl
  | count + 2 => by
    have hfirst (calls : List Call) :
        pauses (.poll :: .pause interval :: calls) = interval :: pauses calls := by
      simp [pauses]
    rw [rounds_add_two, hfirst, pauses_rounds]
    rfl

theorem getLast?_rounds : ∀ count, (rounds interval (count + 1)).getLast? = some .poll
  | 0 => rfl
  | count + 1 => by
    rw [rounds_add_two, List.getLast?_cons_cons, List.getLast?_cons, getLast?_rounds]
    rfl

theorem polls_round (calls : List Call) :
    polls (calls ++ [.poll] ++ [.pause interval]) = polls calls + 1 := by
  simp [polls]

end Rounds

/-! ## The calls -/

section Calls

variable {outcomes : Nat → Except Error String} {attempts interval : Nat} {calls : List Call}
  {text : String} {e : Error}

theorem run_poll (next : Except Error String → Program interface (Except Error Unit)) :
    (Program.call Call.poll next).run (answer outcomes) calls =
      (next (outcomes (polls calls))).run (answer outcomes) (calls ++ [.poll]) :=
  rfl

theorem exists_pollFrom_eq (attempts interval more : Nat) :
    ∃ again, pollFrom attempts interval more = .call .poll (unlessReady again) := by
  cases more <;> exact ⟨_, rfl⟩

/-- After a poll that finds the cluster ready there is no other call. -/
theorem run_pollFrom_of_ok (hready : outcomes (polls calls) = .ok text) (more : Nat) :
    (pollFrom attempts interval more).run (answer outcomes) calls = (.ok (), calls ++ [.poll]) := by
  obtain ⟨again, heq⟩ := exists_pollFrom_eq attempts interval more
  rw [heq, run_poll, hready]
  rfl

/-- After the last failure neither. -/
theorem run_pollFrom_zero (hunready : outcomes (polls calls) = .error e) :
    (pollFrom attempts interval 0).run (answer outcomes) calls =
      (.error (notReady attempts e), calls ++ [.poll]) := by
  rw [pollFrom, run_poll, hunready]
  rfl

/-- After any other failure there are a pause and the polls that are left. -/
theorem run_pollFrom_succ (hunready : outcomes (polls calls) = .error e) (more : Nat) :
    (pollFrom attempts interval (more + 1)).run (answer outcomes) calls =
      (pollFrom attempts interval more).run (answer outcomes)
        (calls ++ [.poll] ++ [.pause interval]) := by
  rw [pollFrom, run_poll, hunready]
  rfl

/-- A failure is followed by the polls that are left. -/
theorem Ends.cons {limit count : Nat} {result : Except Error Unit} (hfirst : ¬ (outcomes 0).isOk)
    (hends : Ends (fun i ↦ outcomes (i + 1)) attempts (limit + 1) count result) :
    Ends outcomes attempts (limit + 2) (count + 1) result := by
  have hcons {k : Nat} (hrest : ∀ i < k, ¬ (outcomes (i + 1)).isOk) :
      ∀ i < k + 1, ¬ (outcomes i).isOk := by
    intro i hi
    cases i with
    | zero => exact hfirst
    | succ i => exact hrest i (Nat.lt_of_succ_lt_succ hi)
  cases hends with
  | ready hlimit hbefore hready => exact .ready (Nat.succ_lt_succ hlimit) (hcons hbefore) hready
  | unready hbefore hlast => exact .unready (hcons hbefore) hlast

/-- Waiting ends well exactly if one of the polls finds the cluster ready. -/
theorem Ends.eq_ok_iff {limit count : Nat} {result : Except Error Unit}
    (hends : Ends outcomes attempts limit count result) :
    result = .ok () ↔ ∃ i < limit, (outcomes i).isOk := by
  cases hends with
  | ready hlimit _ hready => exact ⟨fun _ ↦ ⟨_, hlimit, hready⟩, fun _ ↦ rfl⟩
  | @unready last e hbefore hlast =>
    have hunready : ¬ (outcomes last).isOk := by rw [hlast]; exact Bool.false_ne_true
    refine ⟨nofun, fun ⟨i, hi, hready⟩ ↦ ?_⟩
    obtain hearlier | rfl := Nat.lt_succ_iff_lt_or_eq.1 hi
    · exact absurd hready (hbefore i hearlier)
    · exact absurd hready hunready
  | idle => exact ⟨nofun, fun ⟨_, hi, _⟩ ↦ absurd hi (Nat.not_lt_zero _)⟩

/-- Wherever the polls begin, they end as the outcomes from there on say. -/
theorem ends_pollFrom (outcomes : Nat → Except Error String) (attempts interval more : Nat)
    (calls : List Call) :
    ∃ count result,
      Ends (fun i ↦ outcomes (polls calls + i)) attempts (more + 1) (count + 1) result ∧
        (pollFrom attempts interval more).run (answer outcomes) calls =
          (result, calls ++ rounds interval (count + 1)) := by
  -- The polls made so far say where in the sequence the next round starts, so each moves it by one.
  induction more generalizing calls with
  | zero =>
    cases hfirst : outcomes (polls calls) with
    | ok text =>
      have hready : (outcomes (polls calls)).isOk := by rw [hfirst]; rfl
      exact ⟨0, _, .ready Nat.one_pos nofun hready, run_pollFrom_of_ok hfirst 0⟩
    | error e => exact ⟨0, _, .unready nofun hfirst, run_pollFrom_zero hfirst⟩
  | succ more ih =>
    cases hfirst : outcomes (polls calls) with
    | ok text =>
      have hready : (outcomes (polls calls)).isOk := by rw [hfirst]; rfl
      exact ⟨0, _, .ready (Nat.succ_pos _) nofun hready, run_pollFrom_of_ok hfirst _⟩
    | error e =>
      have hunready : ¬ (outcomes (polls calls)).isOk := by rw [hfirst]; exact Bool.false_ne_true
      obtain ⟨count, result, hends, hrun⟩ := ih (calls ++ [.poll] ++ [.pause interval])
      refine ⟨count + 1, result, .cons hunready ?_, ?_⟩
      · have hshift : (fun i ↦ outcomes (polls (calls ++ [.poll] ++ [.pause interval]) + i)) =
            fun i ↦ outcomes (polls calls + (i + 1)) := by
          funext i
          rw [polls_round, Nat.add_right_comm, Nat.add_assoc]
        rwa [hshift] at hends
      · rw [run_pollFrom_succ hfirst, hrun, rounds_add_two]
        simp

theorem ends_waitReady (attempts interval : Nat) (outcomes : Nat → Except Error String) :
    ∃ count result,
      Ends outcomes attempts attempts count result ∧
        (waitReady attempts interval).run (answer outcomes) [] = (result, rounds interval count) := by
  cases attempts with
  | zero => exact ⟨0, _, .idle, rfl⟩
  | succ more =>
    obtain ⟨count, result, hends, hrun⟩ := ends_pollFrom outcomes (more + 1) interval more []
    have hstart : (fun i ↦ outcomes (polls [] + i)) = outcomes :=
      funext fun i ↦ congrArg outcomes (Nat.zero_add i)
    rw [hstart] at hends
    exact ⟨count + 1, result, hends, hrun⟩

end Calls

/-- Waiting polls up to the first time that the cluster is ready, and otherwise as often as it may.  It
pauses once between any two polls and never after the last, and its failure tells what that one said. -/
theorem polled_until_ready (attempts interval : Nat) (outcomes : Nat → Except Error String) :
    ∃ result calls,
      (waitReady attempts interval).run (answer outcomes) [] = (result, calls) ∧
        Ends outcomes attempts attempts (polls calls) result ∧
        (result = .ok () ↔ ∃ i < attempts, (outcomes i).isOk) ∧
        calls = rounds interval (polls calls) ∧
        pauses calls = List.replicate (polls calls - 1) interval ∧
        ∀ length, calls.getLast? ≠ some (.pause length) := by
  obtain ⟨count, result, hends, hrun⟩ := ends_waitReady attempts interval outcomes
  have hlast (length : Nat) : (rounds interval count).getLast? ≠ some (.pause length) := by
    cases count with
    | zero => exact nofun
    | succ count =>
      rw [getLast?_rounds]
      exact nofun
  refine ⟨result, rounds interval count, hrun, ?_⟩
  rw [polls_rounds]
  exact ⟨hends, hends.eq_ok_iff, rfl, pauses_rounds interval count, hlast⟩

/-- The failure shows what the node replied to the last poll. -/
example :
    let reply := "Error: node n2 is still spare"
    (waitReady 2 500).run (answer fun _ ↦ send (fun _ _ _ ↦ .ok reply) "http://n1:8080" .ready) [] =
      (.error (.timeout "cluster not ready after 2 attempts: node n2 is still spare"),
        [.poll, .pause 500, .poll]) := by
  rfl

end Turnstile.Client.Waiting
