import Turnstile.Proofs.Workload.Bank

/-!
# A row for each mention of an account

A body can mention an account more than once, and the creation inserts a row for each mention.  A
transfer takes its amount from every row of its source and gives it to every row of its target.  So
the total grows by the amount for each mention that the target has more than the source, and it is
kept where every account is mentioned once.
-/

namespace Turnstile.Workload.Bank

open Service (ServiceAction onStore)
open Store (History Row Session count replay total)

/-! ## Operations -/

/-- What tasks ask of the bank: a creation of the accounts that a body names, a transfer between any
accounts, or all balances. -/
inductive Operation where
  | opening (body : String)
  | transfer (m : Transfer)
  | balances

/-- Creates the accounts of a request that has been read from a body. -/
def openParsed : Except Error Opening → ServiceAction OpeningOutcome
  | .ok r => onStore (openAccounts r)
  | .error e => throw e

namespace Operation

def Answer : Operation → Type
  | opening _ => OpeningOutcome
  | transfer _ => Unit
  | balances => String

def work : (o : Operation) → ServiceAction o.Answer
  | opening body => openParsed (Opening.parse body)
  | transfer m => onStore (Bank.transfer m)
  | balances => onStore Bank.balances

end Operation

/-- Operations of the bank, each a task of its own. -/
def operations : Workload where
  Request := Operation
  Result o := Except Error o.Answer
  serve o := .run o.work.run

/-- The request whose accounts a task has created. -/
def opened? : Outcome operations → Option Opening
  | ⟨.opening body, _, _, some (Except.ok (OpeningOutcome.created _))⟩ =>
    (Opening.parse body).toOption
  | _ => none

/-- The transfer that a task has made. -/
def transferred? : Outcome operations → Option Transfer
  | ⟨.transfer m, _, _, some (Except.ok _)⟩ => some m
  | _ => none

/-! ## What is committed -/

/-- What the creation of accounts from a body has committed when it has been answered. -/
def MadeParsed : Except Error Opening → Except Error OpeningOutcome → Deeds → Prop
  | .ok r, result, d => Made r result d
  | .error e, result, d => result = .error e ∧ d.committed = []

/-- What an operation has committed when it has been answered. -/
def Operation.Committed : (o : Operation) → Except Error o.Answer → Deeds → Prop
  | .opening body, result, d => MadeParsed (Opening.parse body) result d
  | .transfer m, result, d => Moved m result d
  | .balances, result, d => Seen result d

/-- Nothing has been committed before the answer. -/
def operationContract : Contract operations where
  During _ d := d.committed = []
  After := Operation.Committed

theorem meets_openParsed {During : Deeds → Prop} {earliest : Nat}
    (hduring : During (.start earliest)) (parsed : Except Error Opening) :
    Action.Meets Service.protocol (fun s ↦ During s.deeds)
      (fun result s ↦ s.use = none ∧ MadeParsed parsed result s.deeds) (openParsed parsed)
      ⟨.start earliest, none⟩ := by
  cases parsed with
  | ok r => exact Service.meets_onStore (meets_openAccounts hduring r)
  | error e => exact ⟨rfl, rfl, rfl⟩

theorem operations_honored : operationContract.Honored := by
  intro o earliest
  have hduring : operationContract.During o (.start earliest) := rfl
  cases o with
  | opening body => exact meets_openParsed hduring (Opening.parse body)
  | transfer m => exact Service.meets_onStore (meets_transfer hduring m)
  | balances => exact Service.meets_onStore (meets_balances hduring)

variable {d : Deeds} {o : Outcome operations} {r : Opening} {m : Transfer} {σ : Session}

/-- What a task that has ended has done to the rows. -/
inductive Effect (o : Outcome operations) (d : Deeds) : Prop where
  | nothing (hmove : transferred? o = none) (hnone : Store.statements d.committed = [])
  | opening {r : Opening} {σ : Session} (hmove : transferred? o = none) (hlist : d.committed = [σ])
      (hopens : Opens r σ)
  | transfer {m : Transfer} {σ : Session} (hmove : transferred? o = some m)
      (hlist : d.committed = [σ]) (hdone : σ.done = m.statements)

theorem effect_of_over (hover : Over operationContract o d) : Effect o d := by
  obtain ⟨request, since, turns, result⟩ := o
  have hkept := hover.kept
  cases result with
  | none =>
    have hnone : d.committed = [] := hkept
    refine .nothing ?_ (hnone ▸ rfl)
    cases request <;> rfl
  | some result =>
    cases request with
    | opening body =>
      have hmade : MadeParsed (Opening.parse body) result d := hkept
      generalize Opening.parse body = parsed at hmade
      cases parsed with
      | error e => exact .nothing rfl (hmade.2 ▸ rfl)
      | ok r =>
        obtain ⟨σ, hlist, hopens⟩ | hclean := Made.opens_or_clean hmade
        · exact .opening rfl hlist hopens
        · exact .nothing rfl (List.flatMap_eq_nil_iff.2 hclean)
    | transfer m =>
      cases result with
      | error e =>
        have hnone : d.committed = [] := hkept
        exact .nothing rfl (hnone ▸ rfl)
      | ok =>
        obtain ⟨σ, hlist, hdone⟩ := hkept
        exact .transfer rfl hlist hdone
    | balances => exact .nothing rfl (List.flatMap_eq_nil_iff.2 (Seen.clean hkept))

theorem opens_of_opened? (hover : Over operationContract o d) (hopened : opened? o = some r) :
    ∃ σ, d.committed = [σ] ∧ Opens r σ := by
  unfold opened? at hopened
  split at hopened
  case h_1 body _ _ _ =>
    have hmade : MadeParsed (Opening.parse body) (.ok (.created _)) d := hover.kept
    cases hparse : Opening.parse body with
    | error e =>
      rw [hparse] at hopened
      simp [Except.toOption] at hopened
    | ok r' =>
      rw [hparse] at hopened hmade
      obtain rfl := Option.some.inj hopened
      exact hmade
  case h_2 => simp at hopened

/-! ## Rows and values -/

/-- How much a transfer adds to the total: its amount for each mention that the target has more than
the source. -/
def Opening.gain (r : Opening) (m : Transfer) : Int :=
  m.amount.toInt * (r.accounts.count m.target - r.accounts.count m.source)

/-- The rows of a request after transfers: one for each mention of an account, with values that add up
to the shares and to what the transfers have added. -/
structure Opening.Accounted (r : Opening) (moves : List Transfer) (rows : List Row) : Prop where
  keys : rows.map Row.key = r.accounts.map some
  total : total rows =
    r.accounts.length * r.totalAmount.toInt.fdiv r.accounts.length + (moves.map r.gain).sum

namespace Opening.Accounted

variable {moves : List Transfer} {rows after : List Row}

theorem start (hlisted : r.Listed rows) : r.Accounted [] rows :=
  ⟨hlisted.keys, hlisted.total.trans (add_zero _).symm⟩

theorem count_eq (haccounted : r.Accounted moves rows) (id : Int64) :
    count id rows = r.accounts.count id :=
  count_of_keys haccounted.keys id

theorem transfer (haccounted : r.Accounted moves rows)
    (hreplay : replay m.statements rows = some after) : r.Accounted (moves ++ [m]) after := by
  obtain ⟨hkeys, htotal⟩ := replay_transfer hreplay
  constructor
  case keys => rw [hkeys, haccounted.keys]
  case total =>
    rw [htotal, haccounted.count_eq, haccounted.count_eq, haccounted.total, List.map_append,
      List.sum_append, List.map_singleton, List.sum_singleton, add_assoc]
    rfl

/-- Every account has one row exactly if none is mentioned twice. -/
theorem once_iff (haccounted : r.Accounted moves rows) :
    (∀ id ∈ r.accounts, count id rows = 1) ↔ r.accounts.Nodup := by
  simp only [haccounted.count_eq]
  rw [List.nodup_iff_count_eq_one]

/-- Transfers between accounts that are mentioned once keep the total. -/
theorem listed (haccounted : r.Accounted moves rows) (hnodup : r.accounts.Nodup)
    (hbetween : ∀ m ∈ moves, m.source ∈ r.accounts ∧ m.target ∈ r.accounts) : r.Listed rows := by
  have hgain : ∀ gain ∈ moves.map r.gain, gain = 0 := by
    intro gain hmem
    obtain ⟨m, hm, rfl⟩ := List.mem_map.1 hmem
    obtain ⟨hsource, htarget⟩ := hbetween m hm
    rw [gain, List.count_eq_one_of_mem hnodup hsource, List.count_eq_one_of_mem hnodup htarget,
      sub_self, mul_zero]
  refine ⟨haccounted.keys, ?_⟩
  rw [haccounted.total, List.sum_eq_zero hgain, add_zero]

end Opening.Accounted

/-- What a task has done to the rows of the accounts. -/
theorem Effect.accounted (heffect : Effect o d) (hsome : r.accounts ≠ []) {moves : List Transfer}
    {commits : List Session} {rows after : List Row} (haccounted : r.Accounted moves rows)
    (hserial : Store.Serial (commits ++ d.committed))
    (hrows : replay (Store.statements commits) [] = some rows)
    (hreplay : replay (Store.statements d.committed) rows = some after) :
    r.Accounted (moves ++ (transferred? o).toList) after := by
  cases heffect with
  | nothing hmove hnone =>
    rw [hnone] at hreplay
    obtain rfl : rows = after := Option.some.inj hreplay
    rw [hmove, Option.toList_none, List.append_nil]
    exact haccounted
  | opening hmove hlist hopens =>
    -- The table is not empty any more.
    rw [hlist] at hserial
    have hkeys := haccounted.keys
    rw [← hserial.rows_eq hopens.done_ne_nil hrows, hopens.empty] at hkeys
    exact absurd (List.map_eq_nil_iff.1 hkeys.symm) hsome
  | transfer hmove hlist hdone =>
    rw [hlist, Store.statements_singleton, hdone] at hreplay
    rw [hmove, Option.toList_some]
    exact haccounted.transfer hreplay

/-- From a creation on, the rows are those of its accounts after the transfers that have been made. -/
theorem Opens.accounted {before : List Session} {σ₀ : Session} (hopens : Opens r σ₀)
    {later : List (Outcome operations × Deeds)}
    (hover : ∀ x ∈ later, Over operationContract x.1 x.2)
    (hserial : Store.Serial (before ++ σ₀ :: commitsOf later)) {rows : List Row}
    (hrows : replay (Store.statements (before ++ σ₀ :: commitsOf later)) [] = some rows) :
    r.Accounted ((later.map Prod.fst).filterMap transferred?) rows := by
  obtain ⟨_, hbalance, _⟩ := hopens.done
  induction later using List.reverseRecOn generalizing rows with
  | nil => exact .start (hopens.listed_alone hrows hserial)
  | append_singleton later x ih =>
    rw [commitsOf_concat, ← List.cons_append, ← List.append_assoc] at hrows hserial
    obtain ⟨middle, hmiddle, hreplay⟩ := Store.replay_statements_append hrows
    have haccounted : r.Accounted ((later.map Prod.fst).filterMap transferred?) middle :=
      ih (fun y hy ↦ hover y (List.mem_append_left [x] hy)) hserial.left hmiddle
    have heffect := effect_of_over (hover x (List.mem_append_right later List.mem_cons_self))
    rw [List.map_append, List.filterMap_append]
    exact heffect.accounted (Opening.accounts_ne_nil hbalance) haccounted hserial hmiddle hreplay

/-- What a creation of accounts and transfers after it leave in the table. -/
structure Opening.Kept (r : Opening) (moves : List Transfer) (rows : List Row) : Prop
    extends r.Accounted moves rows where
  rowsOf (id : Int64) : count id rows = r.accounts.count id
  once : (∀ id ∈ r.accounts, count id rows = 1) ↔ r.accounts.Nodup
  listed : r.accounts.Nodup →
    (∀ m ∈ moves, m.source ∈ r.accounts ∧ m.target ∈ r.accounts) → r.Listed rows

/-- Once the accounts of a body have been created, the table has a row for each mention of an account
and no other, and its total moves by what the later transfers add for these mentions.  So every
account has one row, and the total is kept, if none is mentioned twice. -/
theorem row_per_mention {r : Opening} {busyTimeout : Nat} {h₀ : History}
    (hhistory : h₀.Reachable busyTimeout) {service : Service} (hstore : h₀.store = service.store)
    {p : Pool operations} (hreach : p.Reachable service)
    {earlier later : List (Outcome operations)} {creation : Outcome operations}
    (hended : p.ended = earlier ++ creation :: later) (hopened : opened? creation = some r) :
    r.Kept (later.filterMap transferred?) p.service.store.rows := by
  obtain ⟨h, running, ended, he⟩ :=
    hreach.explained operations_honored hhistory.consistent hstore
  have hcommits : h.commits = h₀.commits ++ commitsOf ended := he.commits fun _ _ ↦ id
  rw [he.outcomes] at hended
  obtain ⟨first, rest, rfl, _, hrest⟩ := List.map_eq_append_iff.1 hended
  obtain ⟨⟨_, d₀⟩, last, rfl, rfl, rfl⟩ := List.map_eq_cons_iff.1 hrest
  obtain ⟨σ₀, hlist, hopens⟩ := opens_of_opened? (he.finished (_, d₀) (by simp)) hopened
  have hsplit : h.commits = (h₀.commits ++ commitsOf first) ++ σ₀ :: commitsOf last := by
    rw [hcommits, commitsOf_append, commitsOf_cons, hlist, List.append_assoc, List.singleton_append]
  have hrecorded := he.consistent.recorded
  have haccounted : r.Accounted ((last.map Prod.fst).filterMap transferred?) h.store.rows := by
    apply hopens.accounted (fun x hx ↦ he.finished x (by simp [hx]))
    · rw [← hsplit]
      exact hrecorded.serial
    · rw [← hsplit]
      exact hrecorded.rows
  rw [← he.store]
  exact { haccounted with
    rowsOf := haccounted.count_eq
    once := haccounted.once_iff
    listed := haccounted.listed }

/-- A body that mentions an account twice. -/
def mentionedTwice : String := "\x7b:accounts [1 1 2], :total-amount 0\x7d"

/-- Its accounts are created, and then one is moved between them. -/
def overdrawn : Option (Pool operations) :=
  (Pool.idle { Service.fresh 5 with store := (History.withTable 5).store }).run
    [.start (Operation.opening mentionedTwice), .advance 0, .advance 0, .advance 0, .advance 0, .advance 0,
      .advance 0, .start (Operation.transfer ⟨1, 2, 1⟩), .advance 0, .advance 0, .advance 0, .advance 0]

theorem row_per_mention_overdrawn :
    ∃ p, overdrawn = some p ∧ p.service.store.rows = [⟨some 1, -1⟩, ⟨some 1, -1⟩, ⟨some 2, 1⟩] ∧
      Opening.Kept ⟨[1, 1, 2], 0⟩ [⟨1, 2, 1⟩] p.service.store.rows := by
  obtain ⟨p, hp⟩ := Option.isSome_iff_exists.1 (by decide +kernel : overdrawn.isSome = true)
  have hrows : overdrawn.map (·.service.store.rows) =
      some [⟨some 1, -1⟩, ⟨some 1, -1⟩, ⟨some 2, 1⟩] := by
    decide +kernel
  have hended : overdrawn.map (·.ended.map fun o ↦ (opened? o, transferred? o)) =
      some [(some ⟨[1, 1, 2], 0⟩, none), (none, some ⟨1, 2, 1⟩)] := by
    decide +kernel
  rw [hp] at hrows hended
  obtain ⟨creation, later, hsplit, hcreation, hlater⟩ := List.map_eq_cons_iff.1 (Option.some.inj hended)
  have hkept := row_per_mention (History.Reachable.withTable 5) rfl (Pool.Reachable.start.run hp)
    (hsplit.trans (List.nil_append _).symm) (congrArg Prod.fst hcreation)
  have hmoves : later.filterMap transferred? = [⟨1, 2, 1⟩] := by
    have hseconds := congrArg (List.filterMap Prod.snd) hlater
    rw [List.filterMap_map] at hseconds
    exact hseconds
  exact ⟨p, hp, Option.some.inj hrows, hmoves ▸ hkept⟩

/-- An account that is mentioned twice has two rows, and a transfer from it takes from both what it
gives once. -/
theorem twice_taken :
    ∃ r created moved, Opening.parse mentionedTwice = .ok r ∧
      (openAccounts r).run.run Store.answer (History.withTable 5).store =
        (.ok (.created 3), created) ∧
      1 ∈ r.accounts ∧ 2 ∈ r.accounts ∧ count 1 created.rows = 2 ∧
      (transfer ⟨1, 2, 1⟩).run.run Store.answer created = (.ok (), moved) ∧
      total created.rows = 0 ∧ total moved.rows = -1 := by
  refine ⟨⟨[1, 1, 2], 0⟩, _, _, by decide, rfl, ?_, ?_, ?_, rfl, ?_, ?_⟩
  all_goals decide

end Turnstile.Workload.Bank
