import Turnstile.Proofs.Tasks.Choice
import Turnstile.Proofs.Tasks.Explanation
import Turnstile.Proofs.Tasks.Transactions
import Turnstile.Proofs.Workload.Replies
import Turnstile.Workload.ValueSet

/-!
# The table as a log

Batches of reads and appends, additions to the set and readings of it run as tasks that share a
store, each under a deadline.  They only insert, so the table is a log: what a task commits comes at
the end, all of it at once, and what a batch reads is the log as it was when the batch began, with
the batch's own rows at the end.  Every list that a batch reports is therefore an early part of what
its key has later on.
-/

namespace Turnstile.Workload.Log

open Workload.Append (Reports appended? insertion? key? lists readNames valuesOf)
open Batch (Operation)
open Service (onStore)
open Store (History Row Session Statement Ticket replay)

/-- What tasks ask of the log, each with the time it may take. -/
inductive Request where
  | batch (limit : Nat) (operations : List Operation)
  | add (limit : Nat) (value : String)
  | elements (limit : Nat)

namespace Request

def limit : Request → Nat
  | batch limit _ => limit
  | add limit _ => limit
  | elements limit => limit

def action : Request → Database.DbAction String
  | batch _ operations => Append.execute operations
  | add _ value => ValueSet.add value
  | elements _ => ValueSet.elements

end Request

/-- Requests to the log, each a task of its own; a task that runs out of time has no answer. -/
def requests : Workload where
  Request := Request
  Result _ := Option (Except Error String)
  serve r := .limited r.limit (onStore r.action).run fun answer _ ↦ .done answer

/-- The statement that adds an element to the set. -/
def addition (value : String) : Statement :=
  .insert .null (.text (String.ofList (Text.trim value.toList)))

/-- The statements of a request that succeeds. -/
def Request.statements : Request → List Statement
  | batch _ operations => operations.filterMap insertion?
  | add _ value => [addition value]
  | elements _ => []

/-- The rows that a task has contributed: those of its request if it has succeeded, none if it has
failed, has run out of time or was dropped. -/
def contribution (o : Outcome requests) : List Row :=
  match o.result with
  | some (some (.ok _)) => Request.statements o.request |>.filterMap Statement.row?
  | _ => []

/-! ## What is committed -/

/-- What the answer to a request tells of the rows that its transaction started from. -/
def Tells : Request → String → List Row → Prop
  | .batch _ operations, text, rows => Reports operations text (lists rows operations)
  | .add _ value, text, _ => text = String.ofList (Text.trim value.toList)
  | .elements _, text, rows => text = ValueSet.renderElements rows

/-- The transaction of a request that has succeeded. -/
structure Carries (r : Request) (text : String) (earliest : Nat) (σ : Session) : Prop where
  late : earliest ≤ σ.begun
  done : σ.done = r.statements
  /-- Every statement has inserted its row. -/
  whole : ∀ stmt ∈ r.statements, stmt.row?.isSome
  tells : Tells r text σ.rows

/-- What a request has committed when its task ends. -/
def Committed (r : Request) : Option (Except Error String) → Deeds → Prop
  | some (.ok text), d => ∃ σ, d.committed = [σ] ∧ Carries r text d.earliest σ
  | _, d => d.committed = []

/-- Nothing has been committed before a success. -/
def contract : Contract requests where
  During _ d := d.committed = []
  After := Committed

variable {r : Request} {d : Deeds} {t : Ticket} {σ : Session}

theorem rows_batch (limit : Nat) (operations : List Operation) :
    (Request.batch limit operations).statements.filterMap Statement.row? =
      operations.filterMap appended? :=
  List.filterMap_filterMap

theorem inserts_of_mem_statements {stmt : Statement} (hmem : stmt ∈ r.statements) :
    stmt.inserts := by
  cases r with
  | batch limit operations =>
    obtain ⟨operation, _, hstmt⟩ := List.mem_filterMap.1 hmem
    cases operation with
    | read name => simp [insertion?] at hstmt
    | append name value =>
      rw [← Option.some.inj hstmt]
      rfl
  | add limit value =>
    rw [List.mem_singleton.1 hmem]
    rfl
  | elements limit => exact absurd hmem List.not_mem_nil

/-! ## Requests -/

theorem meets_action (hnone : d.committed = []) :
    Database.Meets (fun d ↦ d.committed = [])
      (fun answer s ↦ s.use = none ∧ Committed r (some answer) s.deeds) r.action ⟨d, none⟩ := by
  cases r with
  | batch limit operations =>
    apply Database.meets_transact hnone (fun e ↦ ⟨rfl, hnone⟩)
    intro t σ hlate hdone hidle
    apply (Append.runs_runOperations hnone operations [] hidle).imp
    rintro text σ' ⟨hbase, hbegun, hdone', hwhole, _, htext⟩
    refine ⟨rfl, σ', Deeds.committed_commit hnone σ', ?_⟩
    have hview : σ.view.getD [] = σ'.rows := by
      rw [Session.rows, hbase, Session.view_of_done hdone]
    constructor
    case late => exact hbegun ▸ hlate
    case done =>
      rw [hdone', hdone]
      rfl
    case whole => exact hwhole
    case tells =>
      rw [hview] at htext
      exact ⟨Append.length_lists σ'.rows operations, htext⟩
  | add limit value =>
    apply Database.Meets.bind
    apply Database.meets_execAlone hnone (fun e ↦ ⟨rfl, hnone⟩)
    intro σ rows after n hlate hdone _ happly
    refine ⟨rfl, σ, Deeds.committed_commit hnone σ, ?_⟩
    constructor
    case late => exact hlate
    case done => exact hdone
    case whole =>
      intro stmt hmem
      rw [List.mem_singleton.1 hmem]
      obtain ⟨row, hrow, _⟩ := Store.apply_of_inserts rfl happly
      exact Option.isSome_of_mem hrow
    case tells => rfl
  | elements limit =>
    apply Database.Meets.bind
    apply Database.meets_queryAlone hnone (fun e ↦ ⟨rfl, hnone⟩)
    intro σ rows selected hlate hdone hbase hselect
    obtain rfl : rows = selected := Except.ok.inj hselect
    refine ⟨rfl, σ, Deeds.committed_commit hnone σ, ?_⟩
    constructor
    case late => exact hlate
    case done => exact hdone
    case whole => exact fun stmt hmem ↦ absurd hmem List.not_mem_nil
    case tells =>
      rw [Session.rows, hbase]
      rfl

theorem honored : contract.Honored := by
  intro r earliest
  have hnone : (Deeds.start earliest).committed = [] := rfl
  apply Action.Meets.mono (Service.meets_onStore (meets_action hnone))
  · exact fun s hduring ↦ ⟨hduring, fun elapsed ↦ ⟨rfl, hduring⟩⟩
  · exact fun answer s hend ↦ ⟨hend.1, fun elapsed ↦ hend⟩

/-! ## The log -/

/-- The rows that transactions insert, in the order of their commits. -/
def logOf (commits : List Session) : List Row :=
  (Store.statements commits).filterMap Statement.row?

theorem logOf_append (first last : List Session) : logOf (first ++ last) = logOf first ++ logOf last := by
  simp only [logOf, Store.statements_append, List.filterMap_append]

theorem logOf_cons (σ : Session) (last : List Session) :
    logOf (σ :: last) = σ.done.filterMap Statement.row? ++ logOf last := by
  simp only [logOf, Store.statements, List.flatMap_cons, List.filterMap_append]

section Commits

variable {h h₀ : History} {later : List Session}

/-- Transactions that only insert make their log of an empty table. -/
theorem rows_eq_logOf (hempty : replay (Store.statements h₀.commits) [] = some [])
    (hinserts : ∀ stmt ∈ Store.statements later, stmt.inserts) {part : List Session}
    (hpart : part <+: later) {rows : List Row}
    (hrows : replay (Store.statements (h₀.commits ++ part)) [] = some rows) : rows = logOf part := by
  rw [Store.statements_append, Store.replay_append_eq_some hempty] at hrows
  obtain ⟨rest, rfl⟩ := hpart
  apply Store.replay_of_inserts ?_ hrows
  intro stmt hmem
  apply hinserts
  rw [Store.statements_append]
  exact List.mem_append_left _ hmem

/-- What a transaction started from is an early part of the log, and its own rows come next. -/
theorem started_prefix (hrecorded : Store.Recorded h) (hsplit : h.commits = h₀.commits ++ later)
    (hempty : replay (Store.statements h₀.commits) [] = some [])
    (hinserts : ∀ stmt ∈ Store.statements later, stmt.inserts) (hσ : σ ∈ later)
    (hbegun : h₀.commits.length ≤ σ.begun) :
    σ.rows ++ σ.done.filterMap Statement.row? <+: logOf later := by
  by_cases hdone : σ.done = []
  · -- It has written nothing, so others may have committed since it began.
    have hmem : σ ∈ h.commits := by
      rw [hsplit]
      exact List.mem_append_right _ hσ
    have hrows := hrecorded.started hmem
    rw [hsplit, ← Nat.add_sub_cancel' hbegun, List.take_length_add_append] at hrows
    let k := σ.begun - h₀.commits.length
    have hstarted : σ.rows = logOf (later.take k) :=
      rows_eq_logOf hempty hinserts (List.take_prefix k later) hrows
    rw [hdone, List.filterMap_nil, List.append_nil, hstarted]
    refine ⟨logOf (later.drop k), ?_⟩
    rw [← logOf_append, List.take_append_drop]
  · obtain ⟨first, last, rfl⟩ := List.append_of_mem hσ
    have hrows := hrecorded.serial (h₀.commits ++ first) σ last (by rw [hsplit, List.append_assoc])
      hdone
    have hstarted : σ.rows = logOf first :=
      rows_eq_logOf hempty hinserts (List.prefix_append first _) hrows
    refine ⟨logOf last, ?_⟩
    calc σ.rows ++ σ.done.filterMap Statement.row? ++ logOf last
      _ = logOf first ++ logOf (σ :: last) := by rw [hstarted, logOf_cons, List.append_assoc]
      _ = logOf (first ++ σ :: last) := (logOf_append first (σ :: last)).symm

end Commits

/-- A batch has answered that a key has these values. -/
inductive Returns : Outcome requests → Int64 → List Int64 → Prop where
  | intro {limit : Nat} {operations : List Operation} {since : Nat}
      {turns : List (Service × Service)} {text name : String} {found : List (List Int64)}
      {key : Int64} {values : List Int64} (hreports : Reports operations text found)
      (hmem : (name, values) ∈ (readNames operations).zip found) (hkey : key? name = some key) :
      Returns ⟨.batch limit operations, since, turns, some (some (.ok text))⟩ key values

/-- The table is the log of the tasks that have succeeded, and answers show early parts of it. -/
structure Logged (p : Pool requests) : Prop where
  /-- Tasks are kept in the order in which they have ended, which is that of their commits. -/
  rows : p.service.store.rows = p.ended.flatMap contribution
  /-- A success has inserted a row for every statement. -/
  whole : ∀ o ∈ p.ended, ∀ text, o.result = some (some (.ok text)) →
    ∀ stmt ∈ Request.statements o.request, stmt.row?.isSome
  /-- A batch has found an early part of the log, followed by its own rows. -/
  reports : ∀ o ∈ p.ended, ∀ limit operations text, o.request = Request.batch limit operations →
    o.result = some (some (.ok text)) →
    ∃ rows, rows ++ operations.filterMap appended? <+: p.service.store.rows ∧
      Reports operations text (lists rows operations)
  early : ∀ o ∈ p.ended, ∀ key values, Returns o key values →
    values <+: valuesOf key p.service.store.rows
  comparable : ∀ o ∈ p.ended, ∀ o' ∈ p.ended, ∀ key values values', Returns o key values →
    Returns o' key values' → values <+: values' ∨ values' <+: values
  elements : ∀ o ∈ p.ended, ∀ limit text, o.request = Request.elements limit →
    o.result = some (some (.ok text)) →
    ∃ rows, rows <+: p.service.store.rows ∧ text = ValueSet.renderElements rows

theorem carries_of_over {o : Outcome requests} (hover : Over contract o d) {text : String}
    (hresult : o.result = some (some (.ok text))) :
    ∃ σ, d.committed = [σ] ∧ Carries o.request text d.earliest σ := by
  have hkept := hover.kept
  unfold Contract.Kept at hkept
  rw [hresult] at hkept
  exact hkept

/-- A task that has ended has succeeded, with one transaction, or has committed nothing. -/
theorem success_or_nothing {o : Outcome requests} (hover : Over contract o d) :
    (∃ text σ, o.result = some (some (.ok text)) ∧ d.committed = [σ] ∧
      Carries o.request text d.earliest σ) ∨ (d.committed = [] ∧ contribution o = []) := by
  obtain ⟨r, since, turns, result⟩ := o
  match result with
  | none => exact .inr ⟨hover.kept, rfl⟩
  | some none => exact .inr ⟨hover.kept, rfl⟩
  | some (some (.error e)) => exact .inr ⟨hover.kept, rfl⟩
  | some (some (.ok text)) =>
    obtain ⟨σ, hlist, hcarries⟩ := carries_of_over hover rfl
    exact .inl ⟨text, σ, rfl, hlist, hcarries⟩

/-- A task has committed its contribution. -/
theorem logOf_committed {o : Outcome requests} (hover : Over contract o d) :
    logOf d.committed = contribution o := by
  obtain ⟨text, σ, hresult, hlist, hcarries⟩ | ⟨hnone, hnothing⟩ := success_or_nothing hover
  · calc logOf d.committed
      _ = σ.done.filterMap Statement.row? ++ logOf [] := by rw [hlist, logOf_cons]
      _ = (Request.statements o.request).filterMap Statement.row? := by
        rw [hcarries.done]
        exact List.append_nil _
      _ = contribution o := by
        unfold contribution
        rw [hresult]
  · rw [hnone, hnothing]
    rfl

section Runs

variable {h h₀ : History} {p : Pool requests}
  {running : List (Task requests × Standing)} {ended : List (Outcome requests × Deeds)}

theorem quiet : contract.Quiet := fun _ _ ↦ id

theorem inserts_of_over {o : Outcome requests} (hover : Over contract o d) (hσ : σ ∈ d.committed)
    {stmt : Statement} (hmem : stmt ∈ σ.done) : stmt.inserts := by
  obtain ⟨text, σ', _, hlist, hcarries⟩ | ⟨hnone, _⟩ := success_or_nothing hover
  · rw [hlist, List.mem_singleton] at hσ
    rw [hσ, hcarries.done] at hmem
    exact inserts_of_mem_statements hmem
  · simp [hnone] at hσ

/-- The statements of all tasks are insertions. -/
theorem inserts_of_over_all (hover : ∀ x ∈ ended, Over contract x.1 x.2) :
    ∀ stmt ∈ Store.statements (commitsOf ended), stmt.inserts := by
  intro stmt hmem
  obtain ⟨σ, hσ, hstmt⟩ := List.mem_flatMap.1 hmem
  obtain ⟨x, hx, hσx⟩ := List.mem_flatMap.1 hσ
  exact inserts_of_over (hover x hx) hσx hstmt

theorem logOf_commitsOf (hover : ∀ x ∈ ended, Over contract x.1 x.2) :
    logOf (commitsOf ended) = (ended.map Prod.fst).flatMap contribution := by
  induction ended with
  | nil => rfl
  | cons x rest ih =>
    calc logOf (commitsOf (x :: rest))
      _ = logOf x.2.committed ++ logOf (commitsOf rest) := by rw [commitsOf_cons, logOf_append]
      _ = contribution x.1 ++ (rest.map Prod.fst).flatMap contribution := by
        rw [logOf_committed (hover x List.mem_cons_self),
          ih fun y hy ↦ hover y (List.mem_cons_of_mem x hy)]
      _ = ((x :: rest).map Prod.fst).flatMap contribution := by
        rw [List.map_cons, List.flatMap_cons]

variable (hempty : replay (Store.statements h₀.commits) [] = some [])
  (he : Explained contract h₀ h p running ended)

include hempty he

theorem rows_eq_of_explained : p.service.store.rows = logOf (commitsOf ended) := by
  have hinserts := inserts_of_over_all he.finished
  have hrows := he.consistent.recorded.rows
  rw [he.commits quiet, he.store] at hrows
  exact rows_eq_logOf hempty hinserts List.prefix_rfl hrows

/-- A success has found an early part of the log, and its own rows come next. -/
theorem carries_of_mem {o : Outcome requests} (ho : o ∈ p.ended) {text : String}
    (hresult : o.result = some (some (.ok text))) :
    ∃ σ earliest, Carries o.request text earliest σ ∧
      σ.rows ++ (Request.statements o.request).filterMap Statement.row? <+:
        p.service.store.rows := by
  rw [he.outcomes] at ho
  obtain ⟨⟨_, d⟩, hx, rfl⟩ := List.mem_map.1 ho
  obtain ⟨σ, hlist, hcarries⟩ := carries_of_over (he.finished _ hx) hresult
  have hmem : σ ∈ commitsOf ended := by
    apply List.mem_flatMap.2 ⟨_, hx, ?_⟩
    rw [hlist]
    exact List.mem_singleton_self σ
  have hbegun : h₀.commits.length ≤ σ.begun := by
    have hlate := (he.lateEnded quiet _ hx).2
    have hown := hcarries.late
    rw [List.length_append] at hlate
    omega
  have hinserts := inserts_of_over_all he.finished
  refine ⟨σ, d.earliest, hcarries, ?_⟩
  rw [rows_eq_of_explained hempty he, ← hcarries.done]
  exact started_prefix he.consistent.recorded (he.commits quiet) hempty hinserts hmem hbegun

/-- What a batch reports for a key is an early part of what the key has. -/
theorem prefix_of_returns {o : Outcome requests} (ho : o ∈ p.ended) {key : Int64}
    {values : List Int64} (hreturns : Returns o key values) :
    values <+: valuesOf key p.service.store.rows := by
  cases hreturns with
  | @intro limit operations since turns text name found key values hreports hmem hkey =>
    obtain ⟨σ, earliest, hcarries, hprefix⟩ := carries_of_mem hempty he ho rfl
    have htells : Reports operations text (lists σ.rows operations) := hcarries.tells
    rw [hreports.unique htells] at hmem
    rw [rows_batch] at hprefix
    exact Append.prefix_of_mem_lists hmem hkey hprefix

end Runs

/-- On a store whose table starts empty, the table is always the log of the tasks that have
succeeded. -/
theorem logged {busyTimeout : Nat} {h₀ : History} (hhistory : h₀.Reachable busyTimeout)
    {service : Service} (hstore : h₀.store = service.store) (hempty : service.store.rows = [])
    {p : Pool requests} (hreach : p.Reachable service) : Logged p := by
  have hconsistent := hhistory.consistent
  have hnothing : replay (Store.statements h₀.commits) [] = some [] := by
    rw [hconsistent.recorded.rows, hstore, hempty]
  obtain ⟨h, running, ended, he⟩ := hreach.explained honored hconsistent hstore
  constructor
  case rows =>
    calc p.service.store.rows
      _ = logOf (commitsOf ended) := rows_eq_of_explained hnothing he
      _ = (ended.map Prod.fst).flatMap contribution := logOf_commitsOf he.finished
      _ = p.ended.flatMap contribution := by rw [he.outcomes]
  case whole =>
    intro o ho text hresult
    obtain ⟨σ, earliest, hcarries, _⟩ := carries_of_mem hnothing he ho hresult
    exact hcarries.whole
  case reports =>
    intro o ho limit operations text hrequest hresult
    obtain ⟨σ, earliest, hcarries, hprefix⟩ := carries_of_mem hnothing he ho hresult
    have htells := hcarries.tells
    rw [hrequest] at htells
    rw [hrequest, rows_batch] at hprefix
    exact ⟨σ.rows, hprefix, htells⟩
  case early => exact fun o ho key values ↦ prefix_of_returns hnothing he ho
  case comparable =>
    intro o ho o' ho' key values values' hreturns hreturns'
    apply List.prefix_or_prefix_of_prefix
    · exact prefix_of_returns hnothing he ho hreturns
    · exact prefix_of_returns hnothing he ho' hreturns'
  case elements =>
    intro o ho limit text hrequest hresult
    obtain ⟨σ, earliest, hcarries, hprefix⟩ := carries_of_mem hnothing he ho hresult
    have htells := hcarries.tells
    rw [hrequest] at htells
    exact ⟨σ.rows, (List.prefix_append _ _).trans hprefix, htells⟩

/-- Of two batches on the same rows the second waits for the lock and is refused, an addition runs out
of time, and a third batch finds what the first has appended and reads its own row. -/
def overlap : Option (Pool requests) :=
  let append (key value : String) : Operation := .append key value
  let read (key : String) : Operation := .read key
  (Pool.idle { Service.fresh 5 with store := (History.withTable 5).store }).run
    [.start (Request.batch 9 [append "1" "10", read "1"]), .advance 0,
      .start (Request.batch 9 [read "1", append "1" "20"]), .advance 1, .advance 1, .advance 0,
      .start (Request.add 9 "7"), .advance 2, .advance 2, .expire 2, .advance 1, .advance 0,
      .advance 0, .advance 0, .advance 0, .start (Request.batch 9 [append "1" "30", read "1"]),
      .advance 0, .advance 0, .advance 0, .advance 0]

theorem logged_overlap :
    ∃ p, overlap = some p ∧ p.ended.map contribution = [[], [⟨some 1, 10⟩], [], [⟨some 1, 30⟩]] ∧
      p.service.store.rows = [⟨some 1, 10⟩, ⟨some 1, 30⟩] ∧ Logged p := by
  obtain ⟨p, hp⟩ := Option.isSome_iff_exists.1 (by decide +kernel : overlap.isSome = true)
  have hended : overlap.map (·.ended.map contribution) =
      some [[], [⟨some 1, 10⟩], [], [⟨some 1, 30⟩]] := by
    decide +kernel
  simp only [hp, Option.map_some, Option.some.injEq] at hended
  have hlogged : Logged p :=
    logged (History.Reachable.withTable 5) rfl rfl (Pool.Reachable.start.run hp)
  refine ⟨p, hp, hended, ?_, hlogged⟩
  rw [hlogged.rows, List.flatMap_def, hended]
  rfl

end Turnstile.Workload.Log
