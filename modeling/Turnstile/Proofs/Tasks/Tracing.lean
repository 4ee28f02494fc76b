import Turnstile.Proofs.Tasks.Isolation
import Turnstile.Proofs.Tasks.Transactions

/-!
# Deeds and turns

What a task has done can be read off its turns.  Each transaction that it has committed began at one of
them, on the rows that were committed then, and was committed at another, where its rows became the
committed ones if it had written.  At no other turn has the task changed the committed rows.

This holds because a task finds its own transaction at each turn as it has left it at the one before.
-/

namespace Turnstile

open Store (History Row Session Statement Ticket Transaction)

/-- A protocol can be followed in place of another if every answer that it allows is one of the
other's. -/
theorem Program.Meets.simulate {I : Interface} {α σ τ : Type} {P : Protocol I σ} {P' : Protocol I τ}
    {R : σ → τ → Prop}
    (hstep : ∀ s k c, R s k → P.Permits s c → P'.Permits k c ∧
      ∀ a k', P'.Follows k c a k' → ∃ s', P.Follows s c a s' ∧ R s' k')
    {D : σ → Prop} {Q : α → σ → Prop} {p : Program I α} {s : σ} {k : τ} (hp : p.Meets P D Q s)
    (hR : R s k) : p.Meets P' (fun _ ↦ True) (fun a k ↦ ∃ s, Q a s ∧ R s k) k := by
  induction p generalizing s k with
  | done a => exact ⟨s, hp, hR⟩
  | call c next ih =>
    obtain ⟨_, hpermits, hnext⟩ := hp
    obtain ⟨hpermits', hfollows⟩ := hstep s k c hR hpermits
    refine ⟨trivial, hpermits', fun a k' hfollows' ↦ ?_⟩
    obtain ⟨s', hfollows, hR'⟩ := hfollows a k' hfollows'
    exact ih a (hnext a s' hfollows) hR'

/-- What a task finds when it makes its next call: a ticket that is given is new, and its own
transaction is as it has left it. -/
structure Isolated (turns : List (Service × Service)) (c : Service.interface.Call) (s : Service) :
    Prop where
  free : s.store.lock.holder = none → s.store.lock.waiting = []
  fresh : s.store.transaction? s.store.nextTicket = none
  held : ∀ t, Service.Call.ticket? c = some t → ∃ turn, turns.getLast? = some turn ∧
    s.store.transaction? t = turn.2.store.transaction? t

theorem Pool.Reachable.isolated {W : Workload} {C : Contract W} (hhonored : C.Honored) {h₀ : History}
    (c : h₀.Consistent) {service : Service} (hstore : h₀.store = service.store) {p : Pool W}
    (hreach : p.Reachable service) {task : Task W} (htask : task ∈ p.running)
    {call : Service.interface.Call} (hcall : task.rest.call? = some call) :
    Isolated task.turns call p.service := by
  obtain ⟨h, running, ended, he⟩ := hreach.explained hhonored c hstore
  have hticket : task.rest.ticket? = Service.Call.ticket? call := by
    obtain ⟨next, hrest⟩ | ⟨α, limit, next, finish, hrest⟩ := Activity.call?_eq_some hcall
    · rw [hrest]
      rfl
    · rw [hrest]
      rfl
  constructor
  case free => exact he.store ▸ he.consistent.guarded.free
  case fresh =>
    rw [← he.store, he.consistent.tracked.transactions,
      he.consistent.tracked.unused _ (Nat.le_refl _)]
    rfl
  case held => exact fun t ht ↦ hreach.keeps hhonored c hstore task htask t (hticket.trans ht)

theorem Store.transaction?_written {s : Store} {t : Ticket} {tx : Transaction}
    (htx : s.transaction? t = some tx) (rows : List Row) :
    (s.written t tx rows).transaction? t = some { tx with table := some rows, dirty := true } := by
  unfold written
  rw [transaction?_setTransaction, if_pos rfl, htx]
  rfl

theorem Store.table_begin (s : Store) : s.begin.2.table = s.table := by
  unfold begin
  split <;> rfl

/-! ## The trace of a task -/

/-- A transaction began at the turn. -/
structure Begun (turn : Service × Service) : Prop where
  opened : turn.1.store.closed = false
  begun : turn.2.store = turn.1.store.begin.2

/-- The transaction began at the turn, on the rows that were committed then. -/
structure Begins (σ : Session) (turn : Service × Service) : Prop extends Begun turn where
  base : turn.1.store.table = σ.base

theorem Begins.rows {σ : Session} {turn : Service × Service} (hbegins : Begins σ turn) :
    turn.1.store.rows = σ.rows :=
  congrArg (Option.getD · []) hbegins.base

theorem Begun.rows {turn : Service × Service} (hbegun : Begun turn) :
    turn.2.store.rows = turn.1.store.rows := by
  rw [hbegun.begun]
  exact congrArg (Option.getD · []) turn.1.store.table_begin

/-- The transaction was committed at the turn. -/
def Ends (σ : Session) (turn : Service × Service) : Prop :=
  turn.2.store.table = if σ.done = [] then turn.1.store.table else σ.view

/-- The open transaction is what the task has made of it. -/
def Mirrors (σ : Session) (tx : Transaction) : Prop :=
  tx.table = σ.view ∧ tx.dirty = decide (σ.done ≠ [])

theorem Mirrors.written {σ : Session} {tx : Transaction} {stmt : Statement} {rows after : List Row}
    {n : Nat} (hmirrors : Mirrors σ tx) (hrows : tx.table = some rows)
    (happly : stmt.apply rows = .ok (after, n)) :
    Mirrors (σ.add stmt) { tx with table := some after, dirty := true } :=
  ⟨(Store.Session.view_add (hmirrors.1.symm.trans hrows) happly).symm, by simp [Session.add]⟩

/-- The turns of a task on the store tell what it has done and what it holds. -/
structure Traced (s : Standing) (turns : List (Service × Service)) : Prop where
  held : ∀ t σ, s.use = some (t, .transaction σ) → ∃ turn tx, turns.getLast? = some turn ∧
    turn.2.store.transaction? t = some tx ∧ Mirrors σ tx
  begun : ∀ t σ, s.use = some (t, .transaction σ) → ∃ turn ∈ turns, Begins σ turn
  committed : ∀ σ ∈ s.deeds.committed,
    (∃ turn ∈ turns, Begins σ turn) ∧ ∃ turn ∈ turns, Ends σ turn
  rows : rowTurns turns ≤ Store.writes s.deeds.committed
  metrics : ∀ turn ∈ turns, turn.2.metrics = turn.1.metrics

namespace Traced

variable {s s' : Standing} {turns : List (Service × Service)} {turn : Service × Service}

theorem start (earliest : Nat) : Traced ⟨.start earliest, none⟩ [] where
  held := nofun
  begun := nofun
  committed := nofun
  rows := Nat.le_refl _
  metrics := nofun

theorem committed_concat (htraced : Traced s turns) (turn : Service × Service) :
    ∀ σ ∈ s.deeds.committed, (∃ other ∈ turns ++ [turn], Begins σ other) ∧
      ∃ other ∈ turns ++ [turn], Ends σ other := by
  intro σ hσ
  obtain ⟨⟨first, hfirst, hbegins⟩, last, hlast, hends⟩ := htraced.committed σ hσ
  exact ⟨⟨first, List.mem_append_left _ hfirst, hbegins⟩, last, List.mem_append_left _ hlast, hends⟩

theorem metrics_concat (htraced : Traced s turns) (hmetrics : turn.2.metrics = turn.1.metrics) :
    ∀ other ∈ turns ++ [turn], other.2.metrics = other.1.metrics :=
  List.forall_mem_append.2 ⟨htraced.metrics, List.forall_mem_singleton.2 hmetrics⟩

/-- A turn that commits nothing. -/
theorem quiet (htraced : Traced s turns) (hdeeds : s'.deeds = s.deeds)
    (hrows : turn.2.store.rows = turn.1.store.rows) (hmetrics : turn.2.metrics = turn.1.metrics)
    (huse : ∀ t σ, s'.use = some (t, .transaction σ) →
      (∃ tx, turn.2.store.transaction? t = some tx ∧ Mirrors σ tx) ∧
        ∃ turn' ∈ turns ++ [turn], Begins σ turn') : Traced s' (turns ++ [turn]) where
  held t σ ht := by
    obtain ⟨⟨tx, htx, hmirrors⟩, _⟩ := huse t σ ht
    exact ⟨turn, tx, List.getLast?_concat, htx, hmirrors⟩
  begun t σ ht := (huse t σ ht).2
  committed σ hσ := htraced.committed_concat turn σ (hdeeds ▸ hσ)
  rows := by
    rw [rowTurns_concat, if_pos hrows.symm, hdeeds]
    exact htraced.rows
  metrics := htraced.metrics_concat hmetrics

/-- A turn after which the task holds no transaction and that commits nothing. -/
theorem idle (htraced : Traced s turns) (hdeeds : s'.deeds = s.deeds)
    (hrows : turn.2.store.rows = turn.1.store.rows) (hmetrics : turn.2.metrics = turn.1.metrics)
    (huse : ∀ t σ, s'.use ≠ some (t, .transaction σ)) : Traced s' (turns ++ [turn]) :=
  htraced.quiet hdeeds hrows hmetrics fun t σ ht ↦ absurd ht (huse t σ)

/-- A turn within a transaction. -/
theorem within {d : Deeds} {t : Ticket} {σ σ' : Session}
    (htraced : Traced ⟨d, some (t, .transaction σ)⟩ turns) (hbase : σ'.base = σ.base)
    (hrows : turn.2.store.rows = turn.1.store.rows) (hmetrics : turn.2.metrics = turn.1.metrics)
    {tx : Transaction} (htx : turn.2.store.transaction? t = some tx) (hmirrors : Mirrors σ' tx) :
    Traced ⟨d, some (t, .transaction σ')⟩ (turns ++ [turn]) := by
  refine htraced.quiet rfl hrows hmetrics ?_
  rintro _ _ ⟨⟩
  obtain ⟨first, hfirst, hbegins⟩ := htraced.begun t σ rfl
  exact ⟨⟨tx, htx, hmirrors⟩, first, List.mem_append_left _ hfirst, hbegins.toBegun,
    hbase ▸ hbegins.base⟩

/-- A turn that ends the transaction with its commit. -/
theorem commit {d : Deeds} {t : Ticket} {σ : Session}
    (htraced : Traced ⟨d, some (t, .transaction σ)⟩ turns) (hends : Ends σ turn)
    (hmetrics : turn.2.metrics = turn.1.metrics) : Traced ⟨d.commit σ, none⟩ (turns ++ [turn]) where
  held := nofun
  begun := nofun
  committed σ' hσ' := by
    obtain hold | hnew := List.mem_append.1 hσ'
    · exact htraced.committed_concat turn σ' hold
    · obtain rfl := List.mem_singleton.1 hnew
      obtain ⟨first, hfirst, hbegins⟩ := htraced.begun t σ' rfl
      exact ⟨⟨first, List.mem_append_left _ hfirst, hbegins⟩, turn,
        List.mem_append_right _ List.mem_cons_self, hends⟩
  rows := by
    have hwrites : Store.writes (d.commit σ).committed =
        Store.writes d.committed + Store.writes [σ] :=
      Store.writes_append d.committed [σ]
    have hcount : (if turn.1.store.rows = turn.2.store.rows then 0 else 1) ≤
        Store.writes [σ] := by
      by_cases hdone : σ.done = []
      · have htable : turn.2.store.table = turn.1.store.table := hends.trans (if_pos hdone)
        have hrows : turn.1.store.rows = turn.2.store.rows :=
          congrArg (Option.getD · []) htable.symm
        rw [if_pos hrows]
        exact Nat.zero_le _
      · have hone : Store.writes [σ] = 1 := by simp [Store.writes, hdone]
        rw [hone]
        split <;> omega
    rw [rowTurns_concat, hwrites]
    exact Nat.add_le_add htraced.rows hcount
  metrics := htraced.metrics_concat hmetrics

end Traced

/-! ## One call -/

/-- What a call on the store means for a task, traced to the turn that the call is. -/
def Continues (s : Standing) (turns : List (Service × Service)) (call : Store.interface.Call)
    (service : Service) : Prop :=
  ∃ s', s.Follows call (Store.answer call service.store).1 s' ∧
    Traced s' (turns ++ [(service, (Service.answer (.store call) service).2)])

namespace Traced

variable {d : Deeds} {t : Ticket} {σ : Session} {turns : List (Service × Service)}
  {service : Service}

/-- The task finds its transaction as it has left it. -/
theorem found (htraced : Traced ⟨d, some (t, .transaction σ)⟩ turns) {c : Service.interface.Call}
    (hisolated : Isolated turns c service) (hticket : Service.Call.ticket? c = some t) :
    ∃ tx, service.store.transaction? t = some tx ∧ Mirrors σ tx := by
  obtain ⟨turn, tx, hlast, htx, hmirrors⟩ := htraced.held t σ rfl
  obtain ⟨turn', hlast', hsame⟩ := hisolated.held t hticket
  obtain rfl := Option.some.inj (hlast.symm.trans hlast')
  exact ⟨tx, hsame.trans htx, hmirrors⟩

theorem begin (htraced : Traced ⟨d, none⟩ turns)
    (hisolated : Isolated turns (.store .begin) service) :
    Continues ⟨d, none⟩ turns .begin service := by
  unfold Continues
  simp only [Service.answer, Store.answer]
  cases hclosed : service.store.closed with
  | true =>
    rw [Store.begin_of_closed hclosed]
    have hnone : ∀ t σ, (⟨d, none⟩ : Standing).use ≠ some (t, .transaction σ) :=
      fun _ _ ↦ (Option.some_ne_none _).symm
    exact ⟨_, .notBegun _, htraced.idle rfl rfl rfl hnone⟩
  | false =>
    let σ : Session := ⟨d.earliest, service.store.table, [], none⟩
    refine ⟨⟨d, some (service.store.nextTicket, .transaction σ)⟩, ?_, ?_⟩
    · rw [Store.begin_of_open hclosed]
      exact .begun _ (Nat.le_refl _) rfl rfl
    · have hview : σ.view = service.store.table := Session.view_of_done rfl
      have hfound : service.store.begin.2.transaction? service.store.nextTicket =
          some ⟨service.store.version, service.store.table, false⟩ := by
        have hfresh : service.store.transactions.lookup service.store.nextTicket = none :=
          hisolated.fresh
        rw [Store.begin_of_open hclosed]
        simp [Store.transaction?, List.lookup_append, hfresh]
      have hrows : service.store.begin.2.rows = service.store.rows :=
        congrArg (Option.getD · []) service.store.table_begin
      refine htraced.quiet rfl hrows rfl ?_
      rintro _ _ ⟨⟩
      refine ⟨⟨_, hfound, hview.symm, rfl⟩, ?_⟩
      exact ⟨_, List.mem_append_right _ List.mem_cons_self, ⟨hclosed, rfl⟩, rfl⟩

theorem exec (htraced : Traced ⟨d, some (t, .transaction σ)⟩ turns) {stmt : Statement}
    (hisolated : Isolated turns (.store (.exec t stmt)) service) :
    Continues ⟨d, some (t, .transaction σ)⟩ turns (.exec t stmt) service := by
  obtain ⟨tx, htx, hmirrors⟩ := htraced.found hisolated rfl
  have hexecutes := Store.executes htx hisolated.free stmt
  unfold Continues
  simp only [Service.answer, Store.answer]
  generalize service.store.exec t stmt = result at hexecutes ⊢
  obtain ⟨answer, after⟩ := result
  cases hexecutes with
  | closed => exact ⟨_, .refused stmt _, htraced.within rfl rfl rfl htx hmirrors⟩
  | missing => exact ⟨_, .refused stmt _, htraced.within rfl rfl rfl htx hmirrors⟩
  | contended => exact ⟨_, .refused stmt _, htraced.within rfl rfl rfl htx hmirrors⟩
  | faulty => exact ⟨_, .refused stmt _, htraced.within rfl rfl rfl htx hmirrors⟩
  | @done rows after n henters hrows happly =>
    have hheld : (service.store.hold t).transaction? t = some tx := htx
    exact ⟨_, .done (hmirrors.1.symm.trans hrows) happly,
      htraced.within rfl rfl rfl (Store.transaction?_written hheld after)
        (hmirrors.written hrows happly)⟩
  | queued => exact ⟨_, .queued stmt, htraced.within rfl rfl rfl htx hmirrors⟩

theorem resume (htraced : Traced ⟨d, some (t, .transaction σ)⟩ turns) {stmt : Statement}
    (hisolated : Isolated turns (.store (.resume t stmt)) service) :
    Continues ⟨d, some (t, .transaction σ)⟩ turns (.resume t stmt) service := by
  obtain ⟨tx, htx, hmirrors⟩ := htraced.found hisolated rfl
  have hresumes := Store.resumes htx stmt
  unfold Continues
  simp only [Service.answer, Store.answer]
  generalize service.store.resume t stmt = result at hresumes ⊢
  obtain ⟨answer, after⟩ := result
  cases hresumes with
  | contended => exact ⟨_, .conceded stmt _, htraced.within rfl rfl rfl htx hmirrors⟩
  | missing => exact ⟨_, .conceded stmt _, htraced.within rfl rfl rfl htx hmirrors⟩
  | faulty => exact ⟨_, .conceded stmt _, htraced.within rfl rfl rfl htx hmirrors⟩
  | @done rows after n hholder hversion hrows happly =>
    exact ⟨_, .resumed (hmirrors.1.symm.trans hrows) happly,
      htraced.within rfl rfl rfl (Store.transaction?_written htx after)
        (hmirrors.written hrows happly)⟩

theorem query (htraced : Traced ⟨d, some (t, .transaction σ)⟩ turns) {q : Store.Query}
    (hisolated : Isolated turns (.store (.query t q)) service) :
    Continues ⟨d, some (t, .transaction σ)⟩ turns (.query t q) service := by
  obtain ⟨tx, htx, hmirrors⟩ := htraced.found hisolated rfl
  have hanswers := Store.answers htx q
  unfold Continues
  simp only [Service.answer, Store.answer, Store.query_snd]
  generalize (service.store.query t q).1 = answer at hanswers ⊢
  have hrest : Traced ⟨d, some (t, .transaction σ)⟩ (turns ++ [(service, service)]) :=
    htraced.within rfl rfl rfl htx hmirrors
  cases hanswers with
  | closed => exact ⟨_, .notFound t q _, hrest⟩
  | missing => exact ⟨_, .notFound t q _, hrest⟩
  | faulty => exact ⟨_, .notFound t q _, hrest⟩
  | found hrows hselect => exact ⟨_, .found (hmirrors.1.symm.trans hrows) hselect, hrest⟩

theorem finish (htraced : Traced ⟨d, some (t, .transaction σ)⟩ turns)
    (hisolated : Isolated turns (.store (.commit t)) service) :
    Continues ⟨d, some (t, .transaction σ)⟩ turns (.commit t) service := by
  obtain ⟨tx, htx, hmirrors⟩ := htraced.found hisolated rfl
  unfold Continues
  simp only [Service.answer, Store.answer]
  cases hclosed : service.store.closed with
  | true =>
    rw [Store.commit_of_closed hclosed]
    have hnone : ∀ t σ, (⟨d, none⟩ : Standing).use ≠ some (t, .transaction σ) :=
      fun _ _ ↦ (Option.some_ne_none _).symm
    exact ⟨_, .notCommitted _, htraced.idle rfl rfl rfl hnone⟩
  | false =>
    by_cases hdone : σ.done = []
    · have hclean : tx.dirty = false := by rw [hmirrors.2, hdone]; rfl
      rw [Store.commit_of_clean hclosed htx hclean]
      exact ⟨_, .committed, htraced.commit (if_pos hdone).symm rfl⟩
    · have hdirty : tx.dirty = true := by rw [hmirrors.2, decide_eq_true hdone]
      rw [Store.commit_of_dirty hclosed htx hdirty]
      exact ⟨_, .committed, htraced.commit (hmirrors.1.trans (if_neg hdone).symm) rfl⟩

/-- Whatever a task may call next continues its trace. -/
theorem answer {s : Standing} (htraced : Traced s turns) {call : Store.interface.Call}
    (hpermits : s.Permits call) (hisolated : Isolated turns (.store call) service) :
    Continues s turns call service := by
  obtain ⟨d, use⟩ := s
  cases call with
  | begin =>
    obtain rfl : use = none := hpermits
    exact htraced.begin hisolated
  | exec t stmt =>
    obtain ⟨σ, rfl, _⟩ := hpermits
    exact htraced.exec hisolated
  | resume t stmt =>
    obtain ⟨σ, rfl, _⟩ := hpermits
    exact htraced.resume hisolated
  | query t q =>
    obtain ⟨σ, rfl, _⟩ := hpermits
    exact htraced.query hisolated
  | commit t =>
    obtain ⟨σ, rfl, _⟩ := hpermits
    exact htraced.finish hisolated
  | rollback t =>
    obtain ⟨σ, rfl, _⟩ := hpermits
    exact ⟨_, .rolledBack, htraced.idle rfl rfl rfl nofun⟩
  | createSchema =>
    obtain rfl : use = none := hpermits
    have hcreates := Store.creates service.store
    unfold Continues
    simp only [Service.answer, Store.answer]
    generalize service.store.createSchema = result at hcreates ⊢
    obtain ⟨answer, after⟩ := result
    cases hcreates with
    | closed => exact ⟨_, .schemaSettled _, htraced.idle rfl rfl rfl nofun⟩
    | contended => exact ⟨_, .schemaSettled _, htraced.idle rfl rfl rfl nofun⟩
    | done => exact ⟨_, .schemaSettled _, htraced.idle rfl (Store.rows_installTable _ _) rfl nofun⟩
    | queued => exact ⟨_, .schemaQueued _, htraced.idle rfl rfl rfl (by simp)⟩
  | resumeSchema t =>
    obtain rfl : use = some (t, .creation) := hpermits
    refine ⟨_, .schemaResumed _, htraced.idle rfl ?_ rfl nofun⟩
    simp only [Service.answer, Store.answer, Store.resumeSchema]
    split
    case isTrue => exact Store.rows_installTable _ _
    case isFalse => rfl
  | close =>
    obtain rfl : use = none := hpermits
    exact ⟨_, .closed _, htraced.idle rfl rfl rfl nofun⟩

end Traced

/-- What a protocol says of the calls on the store. -/
def Protocol.onStore {σ : Type} (P : Protocol Service.interface σ) : Protocol Store.interface σ where
  Permits s c := P.Permits s (.store c)
  Follows s c := P.Follows s (.store c)

/-- On the service an action on the store keeps to what the protocol says of the store. -/
theorem Action.Meets.onStore {α σ : Type} {P : Protocol Service.interface σ} {D : σ → Prop}
    {Q : Except Error α → σ → Prop} {p : Database.DbAction α} {k : σ}
    (hp : p.Meets P.onStore D Q k) : (Service.onStore p).Meets P D Q k := by
  apply Action.Meets.interpret (P := P.onStore) ?_ hp
  intro c k hbefore hpermits
  exact ⟨hbefore, hpermits, fun _ _ hfollows ↦ hfollows⟩

/-- An action on the store that keeps to the protocol leaves a trace in the turns of the task. -/
theorem Service.traced_onStore {α : Type} {During : Deeds → Prop}
    {Q : Except Error α → Standing → Prop} {p : Database.DbAction α} {s : Standing}
    {turns : List (Service × Service)} (hp : Database.Meets During Q p s) (htraced : Traced s turns) :
    Action.Meets (remembering Isolated) (fun _ ↦ True)
      (fun result turns ↦ ∃ s, Q result s ∧ Traced s turns) (onStore p) turns := by
  apply Action.Meets.onStore
  apply Program.Meets.simulate (R := Traced) ?_ hp htraced
  intro s turns call htraced hpermits
  refine ⟨trivial, ?_⟩
  rintro _ _ ⟨service, hisolated, rfl, rfl⟩
  exact htraced.answer hpermits hisolated

end Turnstile
