import Mathlib.Data.List.Induction
import Turnstile.Proofs.Tasks.Choice
import Turnstile.Proofs.Tasks.Explanation
import Turnstile.Proofs.Tasks.Transactions
import Turnstile.Proofs.Workload.Balances

/-!
# The bank in concurrent use

Account creations, transfers between listed accounts and readings of all balances run as tasks that
share a store, and any of them can be dropped.  What they commit is a creation on an empty table, a
transfer, or nothing that changes rows.  So once the accounts have been created, every commit goes
from one listing of the accounts to another, and a reading finds a listing, since it sees the rows
that some of the commits have left.
-/

namespace Turnstile.Workload.Bank

open Database (Runs)
open Service (onStore)
open Store (History Row Session Ticket replay)

/-- What tasks ask of the bank. -/
inductive Request (accounts : List Int64) where
  | opening (r : Opening)
  | transfer (r : Transfer) (hsource : r.source ∈ accounts) (htarget : r.target ∈ accounts)
  | balances

/-- The type of the answer to a request. -/
def Answer {accounts : List Int64} : Request accounts → Type
  | .opening _ => Except Error OpeningOutcome
  | .transfer _ _ _ => Except Error Unit
  | .balances => Except Error String

/-- Requests to the bank, each a task of its own. -/
def requests (accounts : List Int64) : Workload where
  Request := Request accounts
  Result := Answer
  serve
    | .opening r => .run (onStore (openAccounts r)).run
    | .transfer r _ _ => .run (onStore (Bank.transfer r)).run
    | .balances => .run (onStore Bank.balances).run

/-- Whether a task has created the accounts of a request. -/
def creates {accounts : List Int64} (r : Opening) : Outcome (requests accounts) → Bool
  | ⟨.opening r', _, _, some (Except.ok (OpeningOutcome.created _))⟩ => r' = r
  | _ => false

/-- The answer of a reading that has succeeded. -/
def reading? {accounts : List Int64} : Outcome (requests accounts) → Option String
  | ⟨.balances, _, _, some (Except.ok text)⟩ => some text
  | _ => none

/-! ## What is committed -/

/-- A transaction that the bank can commit. -/
inductive Entry (accounts : List Int64) (σ : Session) : Prop where
  | reading (hdone : σ.done = [])
  | opening {r : Opening} {balance : Int64} (hbalance : r.balance? = some balance)
      (hempty : σ.rows = []) (hdone : σ.done = r.statements balance)
  | transfer {r : Transfer} (hsource : r.source ∈ accounts) (htarget : r.target ∈ accounts)
      (hdone : σ.done = r.statements)

/-- The transaction of an account creation that has succeeded. -/
structure Opens (r : Opening) (σ : Session) : Prop where
  empty : σ.rows = []
  done : ∃ balance, r.balance? = some balance ∧ σ.done = r.statements balance

/-- What an account creation has found and done when it ends without a failure. -/
def Concludes (r : Opening) : OpeningOutcome → Session → Prop
  | .created _, σ => σ.base = some [] ∧ Opens r σ
  | .alreadyInitialized, σ => σ.done = [] ∧ σ.rows ≠ []
  | .contended, _ => False
  | .noShare, σ => σ.done = [] ∧ r.balance? = none

/-- The transaction of a reading. -/
structure Reads (text : String) (earliest : Nat) (σ : Session) : Prop where
  late : earliest ≤ σ.begun
  done : σ.done = []
  text : text = renderBalances σ.rows

/-- What an account creation has committed when it has been answered. -/
def Made (r : Opening) : Except Error OpeningOutcome → Deeds → Prop
  | .ok (.created _), d => ∃ σ, d.committed = [σ] ∧ Opens r σ
  | _, d => ∀ σ ∈ d.committed, σ.done = []

/-- What a transfer has committed when it has been answered. -/
def Moved (r : Transfer) : Except Error Unit → Deeds → Prop
  | .ok _, d => ∃ σ, d.committed = [σ] ∧ σ.done = r.statements
  | .error _, d => d.committed = []

/-- What a reading has committed when it has been answered. -/
def Seen : Except Error String → Deeds → Prop
  | .ok text, d => ∃ σ, d.committed = [σ] ∧ Reads text d.earliest σ
  | .error _, d => d.committed = []

/-- What a request has committed when it has been answered. -/
def Committed {accounts : List Int64} : (r : Request accounts) → Answer r → Deeds → Prop
  | .opening r, result, d => Made r result d
  | .transfer r _ _, result, d => Moved r result d
  | .balances, result, d => Seen result d

/-- Nothing has been committed before the answer. -/
def contract (accounts : List Int64) : Contract (requests accounts) where
  During _ d := d.committed = []
  After r answer d := Committed r answer d

variable {accounts : List Int64} {r : Opening} {d : Deeds} {t : Ticket} {σ : Session}

theorem Made.opens_or_clean {result : Except Error OpeningOutcome} (hmade : Made r result d) :
    (∃ σ, d.committed = [σ] ∧ Opens r σ) ∨ ∀ σ ∈ d.committed, σ.done = [] := by
  unfold Made at hmade
  split at hmade
  case h_1 => exact .inl hmade
  case h_2 => exact .inr hmade

theorem Seen.clean {result : Except Error String} (hseen : Seen result d) :
    ∀ σ ∈ d.committed, σ.done = [] := by
  cases result with
  | ok text =>
    obtain ⟨σ, hlist, hreads⟩ := hseen
    rw [hlist]
    exact List.forall_mem_singleton.2 hreads.done
  | error e =>
    have hnone : d.committed = [] := hseen
    rw [hnone]
    exact List.forall_mem_nil _

theorem Committed.entry {request : Request accounts} {answer : Answer request}
    (hcommitted : Committed request answer d) : ∀ σ ∈ d.committed, Entry accounts σ := by
  cases request with
  | opening r =>
    obtain ⟨σ, hlist, hempty, balance, hbalance, hdone⟩ | hclean := Made.opens_or_clean hcommitted
    · rw [hlist]
      exact List.forall_mem_singleton.2 (.opening hbalance hempty hdone)
    · exact fun σ hσ ↦ .reading (hclean σ hσ)
  | transfer r hsource htarget =>
    cases answer with
    | ok =>
      obtain ⟨σ, hlist, hdone⟩ := hcommitted
      rw [hlist]
      exact List.forall_mem_singleton.2 (.transfer hsource htarget hdone)
    | error e =>
      have hnone : d.committed = [] := hcommitted
      rw [hnone]
      exact List.forall_mem_nil _
  | balances => exact fun σ hσ ↦ .reading (Seen.clean hcommitted σ hσ)

/-! ## Bodies of transactions -/

section Bodies

variable {During : Deeds → Prop} (hduring : During d)

include hduring

theorem runs_insertAccounts (balance : Int64) (ids : List Int64) (hidle : σ.waiting = none) :
    Runs During d t
      (fun _ σ' ↦ σ'.base = σ.base ∧
        σ'.done = σ.done ++ ids.map fun id ↦ .insert (.integer id) (.integer balance))
      (insertAccounts t balance ids) σ := by
  induction ids generalizing σ with
  | nil => exact Database.runs_pure hidle ⟨rfl, (List.append_nil _).symm⟩
  | cons id rest ih =>
    apply Runs.bind
    apply Database.runs_exec hduring hidle
    intro rows after n _ _ hidle'
    apply (ih hidle').imp
    rintro _ σ' ⟨hbase, hdone⟩
    refine ⟨hbase, ?_⟩
    rw [hdone, List.map_cons]
    exact List.append_assoc ..

theorem runs_conclude (r : Opening) (hdone : σ.done = []) (hidle : σ.waiting = none) :
    Runs During d t (Concludes r) (createAccounts t r) σ := by
  apply Runs.bind
  apply Database.runs_query hduring hidle
  intro rows selected hview hselect hidle'
  obtain rfl : rows = selected := Except.ok.inj hselect
  have hbase : σ.base = some rows := Session.base_of_view hdone hview
  cases rows with
  | cons row rest =>
    have hrows : σ.rows = row :: rest := by
      rw [Session.rows, hbase]
      rfl
    exact Database.runs_pure hidle ⟨hdone, hrows ▸ List.cons_ne_nil row rest⟩
  | nil =>
    cases hbalance : r.balance? with
    | none =>
      simp only [List.isEmpty_nil, Bool.not_true, Bool.false_eq_true, if_false]
      exact Database.runs_pure hidle ⟨hdone, hbalance⟩
    | some balance =>
      simp only [List.isEmpty_nil, Bool.not_true, Bool.false_eq_true, if_false]
      apply Runs.bind
      apply (runs_insertAccounts hduring balance r.accounts hidle).imp
      rintro _ σ' ⟨hbase', hdone'⟩ hidle'
      have hempty : σ'.base = some [] := hbase'.trans hbase
      refine Database.runs_pure hidle' ⟨hempty, ?_, balance, hbalance, ?_⟩
      · rw [Session.rows, hempty]
        rfl
      · rw [hdone', hdone]
        rfl

theorem runs_createAccounts (r : Opening) (hdone : σ.done = []) (hidle : σ.waiting = none) :
    Runs During d t
      (fun outcome σ' ↦
        match outcome with
        | .created _ => Opens r σ'
        | _ => σ'.done = [])
      (createAccounts t r) σ := by
  apply (runs_conclude hduring r hdone hidle).imp
  intro outcome σ' hconcludes
  cases outcome with
  | created => exact hconcludes.2
  | alreadyInitialized => exact hconcludes.1
  | contended => exact hconcludes.elim
  | noShare => exact hconcludes.1

theorem runs_move (r : Transfer) (hdone : σ.done = []) (hidle : σ.waiting = none) :
    Runs During d t (fun _ σ' ↦ σ'.done = r.statements) (move t r) σ := by
  apply Runs.bind
  apply Database.runs_exec hduring hidle
  intro rows after n _ _ hidle'
  apply Runs.bind
  apply Database.runs_exec hduring hidle'
  intro rows after n _ _ hidle''
  apply Database.runs_pure hidle''
  rw [Session.add, Session.add, hdone]
  rfl

end Bodies

/-! ## Requests -/

/-- A conflict is told as an outcome, and has committed nothing either way. -/
theorem made_failure (hnone : d.committed = []) (e : Error) :
    Made r (contendedAsOutcome (.error e)) d := by
  have hclean : ∀ σ ∈ d.committed, σ.done = [] := by
    rw [hnone]
    exact fun σ hσ ↦ absurd hσ List.not_mem_nil
  cases e <;> exact hclean

theorem made_success (outcome : OpeningOutcome) (hnone : d.committed = [])
    (houtcome : match outcome with
      | .created _ => Opens r σ
      | _ => σ.done = []) :
    Made r (contendedAsOutcome (.ok outcome)) (d.commit σ) := by
  have hlist := Deeds.committed_commit hnone σ
  cases outcome with
  | created => exact ⟨σ, hlist, houtcome⟩
  | alreadyInitialized | contended | noShare =>
    intro σ' hσ'
    rw [hlist, List.mem_singleton] at hσ'
    subst hσ'
    exact houtcome

theorem meets_openAccounts {During : Deeds → Prop} {earliest : Nat}
    (hduring : During (.start earliest)) (r : Opening) :
    Database.Meets During (fun result s ↦ s.use = none ∧ Made r result s.deeds) (openAccounts r)
      ⟨.start earliest, none⟩ := by
  apply Program.Meets.bind
  apply Database.meets_transact hduring (fun e ↦ ⟨rfl, made_failure rfl e⟩)
  intro t σ _ hdone hidle
  apply (runs_createAccounts hduring r hdone hidle).imp
  exact fun outcome σ' houtcome ↦ ⟨rfl, made_success outcome rfl houtcome⟩

theorem meets_transfer {During : Deeds → Prop} {earliest : Nat}
    (hduring : During (.start earliest)) (r : Transfer) :
    Database.Meets During (fun result s ↦ s.use = none ∧ Moved r result s.deeds) (transfer r)
      ⟨.start earliest, none⟩ := by
  apply Database.meets_transact hduring (fun e ↦ ⟨rfl, rfl⟩)
  intro t σ _ hdone hidle
  apply (runs_move hduring r hdone hidle).imp
  exact fun _ σ' hdone' ↦ ⟨rfl, σ', rfl, hdone'⟩

theorem meets_balances {During : Deeds → Prop} {earliest : Nat}
    (hduring : During (.start earliest)) :
    Database.Meets During (fun result s ↦ s.use = none ∧ Seen result s.deeds) balances
      ⟨.start earliest, none⟩ := by
  apply Database.Meets.bind
  apply Database.meets_queryAlone hduring (fun e ↦ ⟨rfl, rfl⟩)
  intro σ rows selected hlate hdone hbase hselect
  obtain rfl : rows = selected := Except.ok.inj hselect
  refine ⟨rfl, σ, rfl, ?_⟩
  exact { late := hlate, done := hdone, text := by rw [Session.rows, hbase]; rfl }

theorem honored : (contract accounts).Honored := by
  intro request earliest
  have hduring : (contract accounts).During request (.start earliest) := rfl
  cases request with
  | opening r => exact Service.meets_onStore (meets_openAccounts hduring r)
  | transfer r => exact Service.meets_onStore (meets_transfer hduring r)
  | balances => exact Service.meets_onStore (meets_balances hduring)

/-! ## Conservation -/

/-- A commit of the bank goes from one listing to another. -/
theorem Entry.listed (hentry : Entry r.accounts σ) (hnodup : r.accounts.Nodup)
    (hnonempty : r.accounts ≠ []) {rows after : List Row} (hlisted : r.Listed rows)
    (hserial : σ.done ≠ [] → σ.rows = rows) (hreplay : replay σ.done rows = some after) :
    r.Listed after := by
  cases hentry with
  | reading hdone =>
    rw [hdone] at hreplay
    obtain rfl : rows = after := Option.some.inj hreplay
    exact hlisted
  | @opening r' balance hbalance hempty hdone =>
    -- The table is not empty any more, so only a creation that names no account is left.
    have hsome : σ.done ≠ [] := by
      rw [hdone]
      exact fun hnil ↦ Opening.accounts_ne_nil hbalance (List.map_eq_nil_iff.1 hnil)
    have hkeys := hlisted.keys
    rw [← hserial hsome, hempty] at hkeys
    exact absurd (List.map_eq_nil_iff.1 hkeys.symm) hnonempty
  | transfer hsource htarget hdone =>
    rw [hdone] at hreplay
    exact hlisted.transfer hnodup hsource htarget hreplay

theorem Opens.done_ne_nil (hopens : Opens r σ) : σ.done ≠ [] := by
  obtain ⟨balance, hbalance, hdone⟩ := hopens.done
  rw [hdone]
  exact fun hnil ↦ Opening.accounts_ne_nil hbalance (List.map_eq_nil_iff.1 hnil)

/-- A creation leaves a listing of the accounts. -/
theorem Opens.listed_alone {before : List Session} {σ₀ : Session} (hopens : Opens r σ₀)
    {rows : List Row} (hrows : replay (Store.statements (before ++ [σ₀])) [] = some rows)
    (hserial : Store.Serial (before ++ [σ₀])) : r.Listed rows := by
  obtain ⟨balance, hbalance, hdone⟩ := hopens.done
  obtain ⟨listing, hreplay, hlisted⟩ := Opening.listed_statements hbalance
  have hbefore : replay (Store.statements before) [] = some [] := by
    rw [hserial before σ₀ [] rfl hopens.done_ne_nil, hopens.empty]
  rw [Store.statements_concat, Store.replay_append_eq_some hbefore, hdone, hreplay] at hrows
  rw [← Option.some.inj hrows]
  exact hlisted

/-- From a creation on, every commit leaves a listing of the accounts. -/
theorem Opens.listed {before later : List Session} {σ₀ : Session} (hopens : Opens r σ₀)
    (hnodup : r.accounts.Nodup) {rows : List Row}
    (hrows : replay (Store.statements (before ++ σ₀ :: later)) [] = some rows)
    (hserial : Store.Serial (before ++ σ₀ :: later))
    (hentries : ∀ σ ∈ later, Entry r.accounts σ) : r.Listed rows := by
  obtain ⟨_, hbalance, _⟩ := hopens.done
  have hnonempty := Opening.accounts_ne_nil hbalance
  induction later using List.reverseRecOn generalizing rows with
  | nil => exact hopens.listed_alone hrows hserial
  | append_singleton later σ ih =>
    rw [← List.cons_append, ← List.append_assoc] at hrows hserial
    obtain ⟨middle, hmiddle, hreplay⟩ := Store.replay_statements_append hrows
    have hlisted : r.Listed middle :=
      ih hmiddle hserial.left fun σ' hσ' ↦ hentries σ' (List.mem_append_left [σ] hσ')
    have hentry : Entry r.accounts σ := hentries σ (List.mem_append_right later List.mem_cons_self)
    apply hentry.listed hnodup hnonempty hlisted fun hsome ↦ hserial.rows_eq hsome hmiddle
    rwa [Store.statements_singleton] at hreplay

section Commits

variable {h : History} {before later : List Session} {σ₀ : Session}

/-- What any of the commits from a creation on has left is a listing. -/
theorem Opens.listed_of_commits (hopens : Opens r σ₀) (hnodup : r.accounts.Nodup)
    (hrecorded : Store.Recorded h) (hsplit : h.commits = before ++ σ₀ :: later)
    (hentries : ∀ σ ∈ later, Entry r.accounts σ) {middle tail : List Session}
    (hlater : later = middle ++ tail) {rows : List Row}
    (hrows : replay (Store.statements (before ++ σ₀ :: middle)) [] = some rows) :
    r.Listed rows := by
  have hcommits : h.commits = (before ++ σ₀ :: middle) ++ tail := by simp [hsplit, hlater]
  have hserial : Store.Serial ((before ++ σ₀ :: middle) ++ tail) := hcommits ▸ hrecorded.serial
  apply hopens.listed hnodup hrows hserial.left
  intro σ hσ
  apply hentries
  rw [hlater]
  exact List.mem_append_left tail hσ

/-- A transaction that began after the creation started from a listing. -/
theorem Opens.listed_started (hopens : Opens r σ₀) (hnodup : r.accounts.Nodup)
    (hrecorded : Store.Recorded h) (hsplit : h.commits = before ++ σ₀ :: later)
    (hentries : ∀ σ ∈ later, Entry r.accounts σ) (hσ : σ ∈ h.commits)
    (hbegun : before.length < σ.begun) : r.Listed σ.rows := by
  obtain ⟨k, hk⟩ : ∃ k, σ.begun = before.length + (k + 1) :=
    ⟨σ.begun - before.length - 1, by omega⟩
  have hrows := hrecorded.started hσ
  rw [hk, hsplit, List.take_length_add_append, List.take_succ_cons] at hrows
  have hlater : later = later.take k ++ later.drop k := (List.take_append_drop k later).symm
  exact hopens.listed_of_commits hnodup hrecorded hsplit hentries hlater hrows

end Commits

theorem entry_of_over {o : Outcome (requests accounts)} (hover : Over (contract accounts) o d)
    (hσ : σ ∈ d.committed) : Entry accounts σ := by
  obtain ⟨request, since, turns, result⟩ := o
  cases result with
  | some answer => exact Committed.entry hover.kept σ hσ
  | none =>
    have hnone : d.committed = [] := hover.kept
    rw [hnone] at hσ
    exact absurd hσ List.not_mem_nil

theorem opens_of_creates {o : Outcome (requests accounts)} (hover : Over (contract accounts) o d)
    (hcreates : creates r o) : ∃ σ, d.committed = [σ] ∧ Opens r σ := by
  unfold creates at hcreates
  split at hcreates
  case h_1 r' _ _ _ =>
    obtain rfl : r' = r := of_decide_eq_true hcreates
    exact hover.kept
  case h_2 => exact absurd hcreates Bool.false_ne_true

theorem reads_of_reading? {o : Outcome (requests accounts)} {text : String}
    (hover : Over (contract accounts) o d) (hreading : reading? o = some text) :
    ∃ σ, d.committed = [σ] ∧ Reads text d.earliest σ := by
  unfold reading? at hreading
  split at hreading
  case h_1 =>
    obtain rfl := Option.some.inj hreading
    exact hover.kept
  case h_2 => simp at hreading

/-- Once the accounts have been created, the committed rows always list them with the same total,
and every reading that begins afterwards is answered with a text that gives such a list. -/
theorem conserved {r : Opening} (hnodup : r.accounts.Nodup) {busyTimeout : Nat} {h₀ : History}
    (hhistory : h₀.Reachable busyTimeout) {service : Service} (hstore : h₀.store = service.store)
    {p : Pool (requests r.accounts)} (hreach : p.Reachable service)
    {earlier later : List (Outcome (requests r.accounts))} {creation : Outcome (requests r.accounts)}
    (hended : p.ended = earlier ++ creation :: later) (hcreates : creates r creation) :
    r.Listed p.service.store.rows ∧
      ∀ o ∈ p.ended, ∀ text, reading? o = some text → earlier.length < o.since →
        r.Told text := by
  obtain ⟨h, running, ended, he⟩ := hreach.explained honored hhistory.consistent hstore
  have hquiet : (contract r.accounts).Quiet := fun _ _ ↦ id
  have hcommits := he.commits hquiet
  rw [he.outcomes] at hended
  obtain ⟨first, rest, rfl, hfirst, hrest⟩ := List.map_eq_append_iff.1 hended
  obtain ⟨⟨_, d₀⟩, last, rfl, rfl, hlast⟩ := List.map_eq_cons_iff.1 hrest
  obtain ⟨σ₀, hlist, hopens⟩ := opens_of_creates (he.finished (_, d₀) (by simp)) hcreates
  let before : List Session := h₀.commits ++ commitsOf first
  have hsplit : h.commits = before ++ σ₀ :: commitsOf last := by
    calc h.commits
      _ = h₀.commits ++ (commitsOf first ++ ([σ₀] ++ commitsOf last)) := by
        rw [hcommits, commitsOf_append, commitsOf_cons, hlist]
      _ = before ++ σ₀ :: commitsOf last := by simp [before]
  have hrecorded := he.consistent.recorded
  have hentries : ∀ σ ∈ commitsOf last, Entry r.accounts σ := by
    intro σ hσ
    obtain ⟨x, hx, hσx⟩ := List.mem_flatMap.1 hσ
    exact entry_of_over (he.finished x (by simp [hx])) hσx
  constructor
  · rw [← he.store]
    apply hopens.listed_of_commits hnodup hrecorded hsplit hentries (List.append_nil _).symm
    rw [← hsplit]
    exact hrecorded.rows
  · intro o ho text hfound hsince
    rw [he.outcomes] at ho
    obtain ⟨⟨_, d⟩, hd, rfl⟩ := List.mem_map.1 ho
    obtain ⟨σ, hσ, hreads⟩ := reads_of_reading? (he.finished _ hd) hfound
    have hmem : σ ∈ h.commits := by
      rw [hcommits]
      apply List.mem_append_right
      exact List.mem_flatMap.2 ⟨_, hd, by rw [hσ]; exact List.mem_singleton_self σ⟩
    have hbegun : before.length < σ.begun := by
      rw [← hfirst, List.length_map] at hsince
      have hlate := he.lateEnded hquiet _ hd
      have hearliest := hlate.length_lt hsince (by rw [hlist]; exact List.cons_ne_nil _ _)
      exact hearliest.trans_le hreads.late
    have hlisted := hopens.listed_started hnodup hrecorded hsplit hentries hmem hbegun
    rw [hreads.text]
    exact hlisted.told

/-- Two accounts that share eleven. -/
def twoAccounts : Opening := ⟨[1, 2], 11⟩

/-- After the creation a transfer waits for another one, which is dropped between its statements, and
the balances are read before and after its commit. -/
def transfers : Option (Pool (requests twoAccounts.accounts)) :=
  let move (amount : Int64) : Choice (requests twoAccounts.accounts) :=
    .start (Request.transfer ⟨1, 2, amount⟩ (List.mem_cons_self ..) (by simp [twoAccounts]))
  (Pool.idle { Service.fresh 5 with store := (History.withTable 5).store }).run
    [.start (Request.opening twoAccounts), .advance 0, .advance 0, .advance 0, .advance 0,
      .advance 0, move 3, .advance 0, .advance 0, move 4, .advance 1, .advance 1, .drop 0,
      .start Request.balances, .advance 1, .advance 0, .advance 0, .advance 0, .advance 0,
      .advance 0, .start Request.balances, .advance 0, .advance 0, .advance 0]

theorem conserved_transfers :
    ∃ p, transfers = some p ∧ p.service.store.rows = [⟨some 1, 1⟩, ⟨some 2, 9⟩] ∧
      p.ended.filterMap reading? = ["\x7b1 5, 2 5\x7d", "\x7b1 1, 2 9\x7d"] ∧
      twoAccounts.Listed p.service.store.rows ∧
      ∀ text ∈ p.ended.filterMap reading?, twoAccounts.Told text := by
  obtain ⟨p, hp⟩ := Option.isSome_iff_exists.1 (by decide +kernel : transfers.isSome = true)
  have hrows : transfers.map (·.service.store.rows) = some [⟨some 1, 1⟩, ⟨some 2, 9⟩] := by
    decide +kernel
  have hended : transfers.map (·.ended.map (creates twoAccounts)) =
      some [true, false, false, false, false] := by
    decide +kernel
  have hreadings : transfers.map (·.ended.filterMap reading?) =
      some ["\x7b1 5, 2 5\x7d", "\x7b1 1, 2 9\x7d"] := by
    decide +kernel
  have hsince : transfers.map (·.ended.all fun o ↦ (reading? o).isNone || 0 < o.since) =
      some true := by
    decide +kernel
  rw [hp] at hrows hended hreadings hsince
  obtain ⟨creation, later, hsplit, hcreates, _⟩ := List.map_eq_cons_iff.1 (Option.some.inj hended)
  obtain ⟨hlisted, htold⟩ := conserved (by decide) (History.Reachable.withTable 5) rfl
    (Pool.Reachable.start.run hp) (hsplit.trans (List.nil_append _).symm) hcreates
  refine ⟨p, hp, Option.some.inj hrows, Option.some.inj hreadings, hlisted, fun text htext ↦ ?_⟩
  obtain ⟨o, ho, hreading⟩ := List.mem_filterMap.1 htext
  have hlate := List.all_eq_true.1 (Option.some.inj hsince) o ho
  rw [hreading] at hlate
  exact htold o ho text hreading (by simpa using hlate)

end Turnstile.Workload.Bank
