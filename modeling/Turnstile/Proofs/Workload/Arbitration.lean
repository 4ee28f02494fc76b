import Turnstile.Proofs.Store.Conflicts
import Turnstile.Proofs.Tasks.Choice
import Turnstile.Proofs.Tasks.Reliance
import Turnstile.Workload.Append
import Turnstile.Workload.Bank
import Turnstile.Workload.ValueSet

/-!
# Arbitration among writers, and readers beside them

What a history says about the lock is what requests see of it.  A request that only reads makes no
call that can be refused as a conflict, so it never fails with one, whatever runs beside it.  A
request that is cut off at its deadline is dropped, and its transaction gives up the lock like any
that has ended.
-/

namespace Turnstile.Workload

open Database (DbAction)
open Store (Call History Move Ticket)

/-- A request that only reads. -/
inductive Reading where
  | batch (operations : List Batch.Operation) (hreads : ∀ o ∈ operations, ∃ key, o = .read key)
  | balances
  | elements

/-- What a reading does. -/
def Reading.action : Reading → DbAction String
  | batch operations _ => Append.execute operations
  | balances => Bank.balances
  | elements => ValueSet.elements

/-- Readings beside the requests of another workload. -/
def withReadings (W : Workload) : Workload where
  Request := Reading ⊕ W.Request
  Result
    | .inl _ => Except Error String
    | .inr r => W.Result r
  serve
    | .inl r => .run (Service.onStore r.action).run
    | .inr r => W.serve r

/-- A reading has failed with a conflict. -/
def Contended {W : Workload} : Outcome (withReadings W) → Prop
  | ⟨.inl _, _, _, some (Except.error .contention)⟩ => True
  | _ => False

/-! ## Actions that meet no conflict -/

/-- Calls that cannot be refused as conflicts. -/
def peace : Protocol Store.interface Unit where
  Permits _ c := Call.Peaceful c
  Follows _ c a _ := ¬ Call.Contended c a

/-- The action makes no call that can be refused as a conflict, and does not fail with one. -/
def Peaceful {α : Type} (p : DbAction α) : Prop :=
  p.Meets peace (fun _ ↦ True) (fun result _ ↦ result ≠ .error .contention) ()

namespace Peaceful

variable {α β : Type} {p : DbAction α}

theorem pure (a : α) : Peaceful (Pure.pure a : DbAction α) := by
  intro h
  exact nomatch h

theorem bind {f : α → DbAction β} (hp : Peaceful p) (hf : ∀ a, Peaceful (f a)) :
    Peaceful (p >>= f) := by
  apply Action.Meets.andThen hp
  · exact fun a _ _ ↦ hf a
  · exact fun e _ hresult heq ↦ hresult (congrArg Except.error (Except.error.inj heq))

theorem begin : Peaceful Database.begin :=
  ⟨trivial, trivial, fun _ _ hanswer ↦ hanswer⟩

theorem query (t : Ticket) (q : Store.Query) : Peaceful (Database.query t q) :=
  ⟨trivial, trivial, fun _ _ hanswer ↦ hanswer⟩

theorem commit (t : Ticket) : Peaceful (Database.commit t) :=
  ⟨trivial, trivial, fun _ _ hanswer ↦ hanswer⟩

theorem rollback (t : Ticket) : Peaceful (Database.rollback t) :=
  ⟨trivial, trivial, fun _ _ hanswer ↦ hanswer⟩

/-- A transaction is ended without a conflict, and a failure of its body is none. -/
theorem transact {body : Ticket → DbAction α} (hbody : ∀ t, Peaceful (body t)) :
    Peaceful (Database.transact body) := by
  apply begin.bind
  intro t
  apply Action.Meets.bind
  apply Program.Meets.bind
  apply Program.Meets.imp (hbody t)
  intro result s hresult
  cases result with
  | ok a => exact (commit t).bind fun _ ↦ pure a
  | error e =>
    apply (rollback t).bind
    exact fun _ heq ↦ hresult (congrArg Except.error (Except.error.inj heq))

theorem queryAlone (q : Store.Query) : Peaceful (Database.queryAlone q) :=
  transact fun t ↦ query t q

theorem runOperations (t : Ticket) (operations : List Batch.Operation)
    (hreads : ∀ o ∈ operations, ∃ key, o = .read key) (answers : List String) :
    Peaceful (Append.runOperations t answers operations) := by
  induction operations generalizing answers with
  | nil => exact pure _
  | cons o rest ih =>
    obtain ⟨key, rfl⟩ := hreads o List.mem_cons_self
    have hread : Peaceful (Append.runOperation t (.read key)) := (query t _).bind fun _ ↦ pure _
    exact hread.bind fun _ ↦ ih (fun o ho ↦ hreads o (List.mem_cons_of_mem _ ho)) _

theorem reading (r : Reading) : Peaceful r.action := by
  cases r with
  | batch operations hreads => exact transact fun t ↦ runOperations t operations hreads []
  | balances => exact (queryAlone .all).bind fun _ ↦ pure _
  | elements => exact (queryAlone .all).bind fun _ ↦ pure _

end Peaceful

/-! ## Readings beside others -/

/-- Any call can be made, and those that cannot be refused as conflicts are not. -/
def readingReliance (W : Workload) : Reliance (withReadings W) Unit where
  protocol :=
    { Permits := fun _ _ ↦ True
      Follows := fun _ c a _ ↦
        match c, a with
        | .store c, a => Call.Peaceful c → ¬ Call.Contended c a
        | _, _ => True }
  knows _ := ()
  Safe _ := True
  Result
    | .inl _, result => result ≠ .error .contention
    | .inr _, _ => True

section Readings

variable {W : Workload}

theorem relies_reading (W : Workload) (r : Reading) :
    (Activity.run (Service.onStore r.action).run).Relies (readingReliance W).protocol
      (fun result ↦ result ≠ .error .contention) () := by
  apply Action.Meets.interpret ?_ (Peaceful.reading r)
  intro c s _ hpeaceful
  exact ⟨trivial, trivial, fun _ _ hanswer ↦ hanswer hpeaceful⟩

theorem readingReliance_holds (W : Workload) (service : Service) :
    (readingReliance W).Holds service where
  start := trivial
  serve r := by
    cases r with
    | inl r => exact relies_reading W r
    | inr r =>
      apply Activity.relies_iff_shows.2
      exact (W.serve r).shows_any (fun _ _ ↦ trivial) (fun _ _ ↦ trivial) ()
  answer p task c _ _ _ _ _ := by
    refine ⟨?_, trivial⟩
    cases c with
    | store c => exact fun hpeaceful ↦ Store.not_contended hpeaceful p.service.store
    | _ => trivial
  release _ _ _ := trivial

/-- A reading never fails with a conflict, whatever runs beside it. -/
theorem not_contended {service : Service} {p : Pool (withReadings W)} (hreach : p.Reachable service)
    {o : Outcome (withReadings W)} (ho : o ∈ p.ended) : ¬ Contended o := by
  have hresult := (hreach.relies (readingReliance_holds W service)).ended o ho
  obtain ⟨r | r, since, turns, result⟩ := o
  · intro hcontended
    obtain _ | e | text := result
    · exact hcontended
    · cases e with
      | contention => exact hresult (.error .contention) rfl rfl
      | _ => exact hcontended
    · exact hcontended
  · exact id

end Readings

/-! ## The lock -/

/-- Conflicts over the lock are reported exactly when there is one, and nobody who has ended keeps
it. -/
structure Arbitrated (h : History) : Prop where
  conflicts : h.store.busyTimeout = 0 → h.store.closed = false → ∀ t σ stmt,
    h.uses t = some (.transaction σ) → σ.base.isSome →
    ((h.store.exec t stmt).1 = .settled (.error .contention) ↔ h.Conflict t σ)
  /-- A transaction that has got the lock keeps it to its end, and is not refused any more. -/
  keeps : ∀ t, h.Idle t → h.store.lock.holder = some t → ∀ moves h', h.run moves = some h' →
    h'.uses t ≠ none → h'.store.lock.holder = some t ∧
      ∀ stmt, (h'.store.exec t stmt).1 ≠ .settled (.error .contention)
  peaceful : ∀ c, Call.Peaceful c → ¬ Call.Contended c (Store.answer c h.store).1
  readings : ∀ (W : Workload) (service : Service) (p : Pool (withReadings W)),
    service.store = h.store → p.Reachable service → ∀ o ∈ p.ended, ¬ Contended o
  /-- Whoever ends gives up the lock for good. -/
  released : ∀ t m, m = .call (.commit t) ∨ m = .call (.rollback t) ∨ m = .drop t → h.Legal m →
    ∀ moves h', (h.after m).run moves = some h' →
      h'.uses t = none ∧ h'.store.lock.holder ≠ some t
  /-- A request that is cut off at its deadline is dropped. -/
  expired : ∀ (service : Service) {R : Type} (a : Activity Service.interface R) t elapsed rest
    service', service.store = h.store → a.ticket? = some t →
    a.expire service elapsed = some (rest, service') →
    service'.store = (h.drop t).store ∧ service'.store.lock.holder ≠ some t
  /-- While no open transaction has the lock, one that begins gets it with its first statement. -/
  obtains : h.store.busyTimeout = 0 → h.store.closed = false → h.store.table.isSome →
    (∀ t σ, h.uses t = some (.transaction σ) → h.store.lock.holder ≠ some t) →
    ∃ t, h.store.begin.1 = .ok t ∧ ∀ stmt,
      (h.store.begin.2.exec t stmt).1 ≠ .settled (.error .contention) ∧
        (h.store.begin.2.exec t stmt).2.lock.holder = some t

section Lock

variable {timeout : Nat} {h h' : History} {t : Ticket} {m : Move}

/-- Whoever ends is out of use. -/
theorem uses_of_ending (hending : m = .call (.commit t) ∨ m = .call (.rollback t) ∨ m = .drop t)
    (hlegal : h.Legal m) : (h.after m).uses t = none := by
  rcases hending with rfl | rfl | rfl
  · obtain ⟨σ, huse, _⟩ := hlegal
    exact History.uses_commit huse
  · exact Function.update_self ..
  · exact Function.update_self ..

theorem store_of_expire {R : Type} {service service' : Service}
    {a rest : Activity Service.interface R} {elapsed : Duration} (hstore : service.store = h.store)
    (hticket : a.ticket? = some t) (hexpire : a.expire service elapsed = some (rest, service')) :
    service'.store = (h.drop t).store := by
  unfold Activity.expire at hexpire
  split at hexpire
  case h_1 limit c next finish =>
    obtain ⟨_, rfl⟩ := Prod.mk.inj (Option.some.inj hexpire)
    have hcall : Service.Call.ticket? c = some t := hticket
    rw [hcall, Service.release, History.drop, ← hstore]
  case h_2 => simp at hexpire

theorem arbitrated (hreach : History.Reachable timeout h) : Arbitrated h := by
  have c := hreach.consistent
  constructor
  case conflicts =>
    intro hbusy hopen t σ stmt huse hbase
    obtain rfl : timeout = 0 := hreach.busyTimeout.symm.trans hbusy
    exact hreach.contention_iff hopen huse hbase stmt
  case keeps =>
    intro t hidle hholder moves h' hrun hlive
    obtain ⟨⟨σ, huse, hrest⟩, hholder'⟩ := c.keeps_lock_run hidle hholder hrun hlive
    refine ⟨hholder', fun stmt ↦ ?_⟩
    exact ((hreach.run hrun).consistent.exec_holder huse hrest hholder' stmt).1
  case peaceful => exact fun c hpeaceful ↦ Store.not_contended hpeaceful h.store
  case readings => exact fun W service p _ hreach o ho ↦ not_contended hreach ho
  case released =>
    intro t m hending hlegal moves h' hrun
    have hticket : m.ticket? = some t := by
      rcases hending with rfl | rfl | rfl <;> rfl
    obtain ⟨use, huse⟩ := Option.ne_none_iff_exists'.1 (hlegal.uses_ne_none hticket)
    have hgiven : t < (h.after m).store.nextTicket :=
      Nat.lt_of_lt_of_le (c.tracked.lt_nextTicket huse) (History.nextTicket_after h m)
    have hover := History.uses_run hgiven (uses_of_ending hending hlegal) hrun
    exact ⟨hover, ((hreach.move m hlegal).run hrun).holder_of_unused hover⟩
  case expired =>
    intro service R a t elapsed rest service' hstore hticket hexpire
    have hdropped := store_of_expire hstore hticket hexpire
    refine ⟨hdropped, fun hholder ↦ ?_⟩
    rw [hdropped] at hholder
    exact (c.guarded.holder_of_leave hholder).1 rfl
  case obtains =>
    intro hbusy hopen htable hfree
    obtain rfl : timeout = 0 := hreach.busyTimeout.symm.trans hbusy
    have hnobody : h.store.lock.holder = none := by
      by_contra hsome
      obtain ⟨t, hholder⟩ := Option.ne_none_iff_exists'.1 hsome
      obtain ⟨σ, huse⟩ := hreach.holder hholder
      exact hfree t σ huse hholder
    refine ⟨h.store.nextTicket, ?_, fun stmt ↦ ?_⟩
    · rw [Store.begin_of_open hopen]
    · exact (hreach.begin_exec hopen htable hnobody stmt).2

/-- A statement that adds a row. -/
def addRow (key value : Int64) : Store.Statement :=
  .insert (.integer key) (.integer value)

/-- Of two transactions that begin on the same rows one gets the lock; the other is refused while the
first is open and after its commit, also when a third has had the lock in between. -/
def contest : List Move :=
  [.call .createSchema, .call .begin, .call .begin, .call (.exec 2 (addRow 1 10)),
    .call (.commit 2), .call .begin, .call (.exec 4 (addRow 2 20)), .drop 4]

theorem arbitrated_contest :
    ∃ h h', (History.start 0).run (contest.take 4) = some h ∧
      (History.start 0).run contest = some h' ∧ h.store.lock.holder = some 2 ∧
      h'.store.lock.holder = none ∧
      (h.store.exec 3 (addRow 1 30)).1 = .settled (.error .contention) ∧
      (h'.store.exec 3 (addRow 1 30)).1 = .settled (.error .contention) ∧
      Arbitrated h ∧ Arbitrated h' := by
  refine ⟨((History.start 0).run (contest.take 4)).get (by decide),
    ((History.start 0).run contest).get (by decide), Option.eq_some_of_isSome _,
    Option.eq_some_of_isSome _, by decide, by decide, rfl, rfl, ?_, ?_⟩
  · exact arbitrated (History.Reachable.start.run (Option.eq_some_of_isSome (by decide)))
  · exact arbitrated (History.Reachable.start.run (Option.eq_some_of_isSome (by decide)))

end Lock

end Turnstile.Workload
