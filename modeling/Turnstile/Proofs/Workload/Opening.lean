import Turnstile.Proofs.Tasks.Serving
import Turnstile.Proofs.Workload.Bank

/-!
# Account creations in competition

Several account creations run on a table without rows.  Each looks for rows first and inserts its own
afterwards, and in between others can do the same.  The first insert takes the lock, and is refused if
somebody has committed rows since the look; so a creation that commits has started from the rows that
its commit replaces, and there were none.  Hence one creation at most succeeds, and the others are
told that they came late.
-/

namespace Turnstile.Workload.Bank

open Database (Yields)
open Store (History Row Session Ticket replay)

/-- Creations of accounts, each a task of its own. -/
def openings : Workload where
  Request := { r : Opening // r.accounts ≠ [] }
  Result _ := Except Error OpeningOutcome
  serve r := .run (Service.onStore (openAccounts r)).run

/-- Whether a task has created its accounts. -/
def isCreation : Outcome openings → Bool
  | ⟨_, _, _, some (Except.ok (OpeningOutcome.created _))⟩ => true
  | _ => false

/-- The rows of a creation: one for each account in order, all with the same balance, which leaves
less of the total than there are accounts. -/
def Opening.Shared (r : Opening) (rows : List Row) : Prop :=
  ∃ balance : Int64, rows = (r.accounts.map fun id ↦ ⟨some id, balance⟩) ∧
    0 ≤ r.totalAmount.toInt - r.accounts.length * balance.toInt ∧
    r.totalAmount.toInt - r.accounts.length * balance.toInt < r.accounts.length

/-! ## What a creation commits -/

/-- Nothing has been committed before the answer. -/
def openingContract : Contract openings where
  During _ d := d.committed = []
  After r result d := Made r.1 result d

variable {r : Opening} {d : Deeds} {σ : Session}

theorem openings_honored : openingContract.Honored := by
  intro r earliest
  have hduring : openingContract.During r (.start earliest) := rfl
  exact Service.meets_onStore (meets_openAccounts hduring r.1)

/-! ## How a creation ends -/

/-- The answers to a creation that names accounts. -/
def Answered (r : Opening) (result : Except Error OpeningOutcome) : Prop :=
  result = .ok (.created r.accounts.length) ∨ result = .ok .alreadyInitialized ∨
    result = .ok .contended

section Results

variable {k t : Ticket} (hk : k ≤ t)

include hk

/-- An insert of integers fails by a conflict alone. -/
theorem yields_insertAccounts {Q : Except Error Unit → Prop} (balance : Int64) (ids : List Int64)
    (hcontended : Q (.error .contention)) (hdone : Q (.ok ())) :
    Yields k Q (insertAccounts t balance ids) := by
  induction ids with
  | nil => exact Yields.pure hdone
  | cons id rest ih =>
    apply Yields.bind
    apply Yields.exec hk
    · rintro e (rfl | ⟨rows, f, happly, _⟩)
      · exact hcontended
      · exact nomatch happly
    · exact fun _ ↦ ih

theorem yields_createAccounts {Q : Except Error OpeningOutcome → Prop} (hsome : r.accounts ≠ [])
    (hcontended : Q (.error .contention)) (halready : Q (.ok .alreadyInitialized))
    (hcreated : Q (.ok (.created r.accounts.length))) : Yields k Q (createAccounts t r) := by
  apply Yields.bind
  apply Yields.query hk
  · exact fun rows f hselect ↦ nomatch hselect
  · intro rows
    cases rows with
    | cons row rest => exact Yields.pure halready
    | nil =>
      have hbalance : ∃ balance, r.balance? = some balance := by
        simp [Opening.balance?, hsome]
      obtain ⟨balance, hbalance⟩ := hbalance
      simp only [List.isEmpty_nil, Bool.not_true, Bool.false_eq_true, if_false, hbalance]
      apply Yields.bind
      exact yields_insertAccounts hk balance r.accounts hcontended (Yields.pure hcreated)

end Results

theorem yields_openAccounts {k : Ticket} (hsome : r.accounts ≠ []) :
    Yields k (Answered r) (openAccounts r) := by
  apply Program.Meets.bind
  apply Yields.transact
  intro t hk
  apply yields_createAccounts hk hsome
  · exact .inr (.inr rfl)
  · exact .inr (.inl rfl)
  · exact .inl rfl

/-! ## The rows -/

theorem Opens.shared (hopens : Opens r σ) {rows : List Row}
    (hreplay : replay σ.done [] = some rows) : r.Shared rows := by
  obtain ⟨balance, hbalance, hdone⟩ := hopens.done
  have hpositive : 0 < r.accounts.length :=
    List.length_pos_iff.2 (Opening.accounts_ne_nil hbalance)
  rw [hdone, Opening.statements, replay_insert, List.nil_append] at hreplay
  refine ⟨balance, (Option.some.inj hreplay).symm, ?_⟩
  rw [Opening.toInt_balance hbalance, Int.fdiv_eq_ediv_of_nonneg _ (by omega), ← Int.emod_def]
  exact ⟨Int.emod_nonneg _ (by omega), Int.emod_lt_of_pos _ (by omega)⟩

theorem Opening.Shared.ne_nil {rows : List Row} (hshared : r.Shared rows)
    (hsome : r.accounts ≠ []) : rows ≠ [] := by
  obtain ⟨balance, rfl, _⟩ := hshared
  exact fun hnil ↦ hsome (List.map_eq_nil_iff.1 hnil)

theorem opens_of_isCreation {o : Outcome openings} (hover : Over openingContract o d)
    (hcreation : isCreation o) : ∃ σ, d.committed = [σ] ∧ Opens o.request.1 σ := by
  unfold isCreation at hcreation
  split at hcreation
  case h_1 => exact hover.kept
  case h_2 => exact absurd hcreation Bool.false_ne_true

/-- Only a creation that has succeeded has committed statements. -/
theorem statements_eq_nil_of_over {o : Outcome openings} (hover : Over openingContract o d)
    (hcreation : ¬ isCreation o) : Store.statements d.committed = [] := by
  have hclean : ∀ σ ∈ d.committed, σ.done = [] := by
    obtain ⟨request, since, turns, _ | e | outcome⟩ := o
    · have hnone : d.committed = [] := hover.kept
      rw [hnone]
      exact fun σ hσ ↦ absurd hσ List.not_mem_nil
    · exact hover.kept
    · cases outcome with
      | created => exact absurd rfl hcreation
      | _ => exact hover.kept
  exact List.flatMap_eq_nil_iff.2 hclean

/-- What creations leave: no rows, or those of the only one that has succeeded. -/
def Left (ended : List (Outcome openings)) (rows : List Row) : Prop :=
  ended.countP isCreation = 0 ∧ rows = [] ∨
    ended.countP isCreation = 1 ∧ ∃ o ∈ ended, isCreation o ∧ o.request.1.Shared rows

namespace Left

variable {ended : List (Outcome openings)} {rows : List Row} {o : Outcome openings}

/-- A task ends that has not created its accounts. -/
theorem other (hleft : Left ended rows) (hcreation : ¬ isCreation o) : Left (ended ++ [o]) rows := by
  have hcount : (ended ++ [o]).countP isCreation = ended.countP isCreation := by
    simp [hcreation]
  obtain ⟨hnone, hempty⟩ | ⟨hone, creator, hmem, hcreator⟩ := hleft
  · exact .inl ⟨hcount.trans hnone, hempty⟩
  · exact .inr ⟨hcount.trans hone, creator, List.mem_append_left [o] hmem, hcreator⟩

/-- A task ends that has created its accounts on a table without rows. -/
theorem creation (hleft : Left ended []) (hcreation : isCreation o)
    (hshared : o.request.1.Shared rows) : Left (ended ++ [o]) rows := by
  obtain ⟨hnone, _⟩ | ⟨_, creator, _, _, hshared'⟩ := hleft
  · refine .inr ⟨?_, o, List.mem_append_right ended (List.mem_singleton_self o), hcreation, hshared⟩
    simp [hnone, hcreation]
  · exact absurd rfl (hshared'.ne_nil creator.request.2)

/-- One creation at most has succeeded. -/
theorem count_le (hleft : Left ended rows) : ended.countP isCreation ≤ 1 := by
  obtain ⟨hnone, _⟩ | ⟨hone, _⟩ := hleft
  · omega
  · omega

end Left

theorem left_of_commits {base : List Session} (hbase : replay (Store.statements base) [] = some [])
    {ended : List (Outcome openings × Deeds)}
    (hover : ∀ x ∈ ended, Over openingContract x.1 x.2)
    (hserial : Store.Serial (base ++ commitsOf ended)) {rows : List Row}
    (hrows : replay (Store.statements (base ++ commitsOf ended)) [] = some rows) :
    Left (ended.map Prod.fst) rows := by
  induction ended using List.reverseRecOn generalizing rows with
  | nil =>
    rw [commitsOf, List.flatMap_nil, List.append_nil, hbase] at hrows
    exact .inl ⟨rfl, (Option.some.inj hrows).symm⟩
  | append_singleton ended x ih =>
    rw [commitsOf_concat, ← List.append_assoc] at hrows hserial
    obtain ⟨middle, hmiddle, hreplay⟩ := Store.replay_statements_append hrows
    have hleft : Left (ended.map Prod.fst) middle :=
      ih (fun y hy ↦ hover y (List.mem_append_left [x] hy)) hserial.left hmiddle
    have hx := hover x (List.mem_append_right ended (List.mem_singleton_self x))
    rw [List.map_append, List.map_singleton]
    by_cases hcreation : isCreation x.1
    case neg =>
      rw [statements_eq_nil_of_over hx hcreation] at hreplay
      obtain rfl : middle = rows := Option.some.inj hreplay
      exact hleft.other hcreation
    case pos =>
      obtain ⟨σ, hlist, hopens⟩ := opens_of_isCreation hx hcreation
      -- It has found no rows when it looked, and its commit replaces what it has found.
      rw [hlist] at hserial hreplay
      obtain rfl : [] = middle := hopens.empty.symm.trans (hserial.rows_eq hopens.done_ne_nil hmiddle)
      rw [Store.statements_singleton] at hreplay
      exact hleft.creation hcreation (hopens.shared hreplay)

/-! ## Competition -/

/-- Of creations in competition one succeeds at most, and the committed rows are its own. -/
structure FirstWins (p : Pool openings) : Prop where
  once : p.ended.countP isCreation ≤ 1
  answers : ∀ o ∈ p.ended, ∀ result, o.result = some result → Answered o.request.1 result
  rows : (∀ o ∈ p.ended, ¬ isCreation o) ∧ p.service.store.rows = [] ∨
    ∃ o ∈ p.ended, isCreation o ∧ o.request.1.Shared p.service.store.rows

variable {h : History} {timeout : Nat} {service : Service} {p : Pool openings}

theorem answered (hhistory : h.Reachable timeout) (hstore : h.store = service.store)
    (hopen : h.store.closed = false) (htable : h.store.table.isSome) (hreach : p.Reachable service)
    {o : Outcome openings} (ho : o ∈ p.ended) {result : Except Error OpeningOutcome}
    (hresult : o.result = some result) : Answered o.request.1 result := by
  have hserve (r : openings.Request) :
      (openings.serve r).Relies (Service.serving h.store.nextTicket) (Answered r.1) () :=
    Service.meets_of_yields (yields_openAccounts r.2)
  have hholds := servingReliance_holds openings_honored hhistory.consistent hstore hopen htable hserve
  exact (hreach.relies hholds).ended o ho result hresult

theorem first_wins (hhistory : h.Reachable timeout) (hstore : h.store = service.store)
    (hopen : service.store.closed = false) (htable : service.store.table = some [])
    (hreach : p.Reachable service) : FirstWins p := by
  rw [← hstore] at hopen htable
  have hleft : Left p.ended p.service.store.rows := by
    obtain ⟨h', running, ended, he⟩ :=
      hreach.explained openings_honored hhistory.consistent hstore
    have hcommits : h'.commits = h.commits ++ commitsOf ended := he.commits fun _ _ ↦ id
    have hempty : replay (Store.statements h.commits) [] = some [] := by
      rw [hhistory.consistent.recorded.rows, Store.rows, htable]
      rfl
    have hrecorded := he.consistent.recorded
    rw [he.outcomes, ← he.store]
    apply left_of_commits hempty he.finished
    · rw [← hcommits]
      exact hrecorded.serial
    · rw [← hcommits]
      exact hrecorded.rows
  constructor
  case once => exact hleft.count_le
  case answers =>
    have hsome : h.store.table.isSome := Option.isSome_of_eq_some htable
    exact fun o ho result ↦ answered hhistory hstore hopen hsome hreach ho
  case rows => exact hleft.imp (fun hnone ↦ ⟨List.countP_eq_zero.1 hnone.1, hnone.2⟩) And.right

/-- Four creations, one of a negative total that does not split evenly.  Two wait for it to come to
its end; one of them is dropped, and the other finds itself too late. -/
def rush : Option (Pool openings) :=
  let start (r : Opening) (hsome : r.accounts ≠ []) : Choice openings := .start ⟨r, hsome⟩
  (Pool.idle { Service.fresh 5 with store := (History.withTable 5).store }).run
    [start ⟨[5], 10⟩ (by decide), start ⟨[1, 2, 3], -7⟩ (by decide), start ⟨[9], 1⟩ (by decide),
      .advance 0, .advance 0, .advance 1, .advance 1, .advance 2, .advance 1, .advance 0, .advance 2,
      .advance 2, .drop 2, .advance 1, .advance 1, .advance 1, .advance 0, .advance 0,
      start ⟨[4], 4⟩ (by decide), .advance 0, .advance 0, .advance 0]

/-- The answers of tasks that have ended, in the order of their ends. -/
def results (ended : List (Outcome openings)) : List (Option (Except Error OpeningOutcome)) :=
  ended.map (·.result)

theorem first_wins_rush :
    ∃ p, rush = some p ∧ p.service.store.rows = [⟨some 1, -3⟩, ⟨some 2, -3⟩, ⟨some 3, -3⟩] ∧
      results p.ended = [none, some (.ok (.created 3)), some (.ok .contended),
        some (.ok .alreadyInitialized)] ∧ FirstWins p := by
  obtain ⟨p, hp⟩ := Option.isSome_iff_exists.1 (by decide +kernel : rush.isSome = true)
  have hrows : rush.map (·.service.store.rows) =
      some [⟨some 1, -3⟩, ⟨some 2, -3⟩, ⟨some 3, -3⟩] := by
    decide +kernel
  have hended : rush.map (results ·.ended) = some [none, some (.ok (.created 3)),
      some (.ok .contended), some (.ok .alreadyInitialized)] := by
    decide +kernel
  rw [hp] at hrows hended
  have hwins := first_wins (History.Reachable.withTable 5) rfl rfl rfl (Pool.Reachable.start.run hp)
  exact ⟨p, hp, Option.some.inj hrows, Option.some.inj hended, hwins⟩

end Turnstile.Workload.Bank
