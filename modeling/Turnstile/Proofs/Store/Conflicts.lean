import Turnstile.Proofs.Store.Preservation

/-!
# Conflicts over the lock

A statement is refused as a conflict for one of two reasons: another transaction has the lock, or
one that has written has been committed since its own began.  A transaction that has got the lock
keeps it to its end, so no later statement of it is refused for either reason; and whoever ends gives
the lock up for good, since a ticket is never given twice.  Nothing but a statement or a schema
creation asks for the lock.
-/

namespace Turnstile.Store

/-- A fault is no conflict. -/
theorem Fault.error_ne_contention {α : Type} (f : Fault) :
    (.error f.error : Except Error α) ≠ .error .contention := by
  cases f <;> simp [Fault.error]

/-- Whether a call has been refused as a conflict. -/
def Call.Contended : (c : interface.Call) → interface.Answer c → Prop
  | .begin, result => result = .error .contention
  | .exec _ _, .settled result => result = .error .contention
  | .exec _ _, .queued _ => False
  | .resume _ _, result => result = .error .contention
  | .query _ _, result => result = .error .contention
  | .commit _, result => result = .error .contention
  | .rollback _, result => result = .error .contention
  | .createSchema, .settled result => result = .error .contention
  | .createSchema, .queued _ => False
  | .resumeSchema _, result => result = .error .contention
  | .close, result => result = .error .contention

/-- The calls of a transaction besides its statements. -/
def Call.Peaceful : interface.Call → Prop
  | .begin | .query _ _ | .commit _ | .rollback _ => True
  | _ => False

/-- The ticket that a move is about. -/
def Move.ticket? : Move → Option Ticket
  | .call c => c.ticket?
  | .drop t => some t

section Calls

variable {s : Store} {t : Ticket} {tx : Transaction}

/-- Only statements and schema creations are refused as conflicts. -/
theorem not_contended {c : interface.Call} (hpeaceful : Call.Peaceful c) (s : Store) :
    ¬ Call.Contended c (Store.answer c s).1 := by
  cases c with
  | begin =>
    simp only [Call.Contended, Store.answer, Store.begin]
    split
    · exact Fault.closed.error_ne_contention
    · simp
  | query t q =>
    simp only [Call.Contended, Store.answer, Store.query]
    repeat' split
    all_goals first | exact Fault.error_ne_contention _ | simp
  | commit t =>
    simp only [Call.Contended, Store.answer, Store.commit]
    repeat' split
    all_goals first | exact Fault.error_ne_contention _ | simp
  | rollback t => simp [Call.Contended, Store.answer, Store.rollback]
  | exec | resume | createSchema | resumeSchema | close => exact hpeaceful.elim

/-- What it takes for a statement to be refused as a conflict. -/
theorem Executes.reason {stmt : Statement} {answer : Attempt Nat} {s' : Store}
    (hexecutes : Executes s t tx stmt answer s') (hrefused : answer = .settled (.error .contention)) :
    s.lock.holder ≠ some t ∧ (s.lock.holder ≠ none ∨ s.version ≠ tx.version) := by
  cases hexecutes with
  | contended hother hreason => exact ⟨hother, hreason.imp And.left And.right⟩
  | closed | missing | faulty =>
    exact absurd (Attempt.settled.inj hrefused) (Fault.error_ne_contention _)
  | done | queued => exact nomatch hrefused

theorem exec_of_contended {rows : List Row} (hopen : s.closed = false)
    (htx : s.transaction? t = some tx) (hrows : tx.table = some rows)
    (hother : s.lock.holder ≠ some t) (hbusy : s.busyTimeout = 0)
    (hreason : s.lock.holder ≠ none ∨ s.version ≠ tx.version) (stmt : Statement) :
    (s.exec t stmt).1 = .settled (.error .contention) := by
  cases hholder : s.lock.holder with
  | none =>
    have hversion : s.version ≠ tx.version := hreason.resolve_left (· hholder)
    simp [exec, execWithLock, hopen, htx, hrows, hholder, hversion]
  | some holder =>
    have hself : holder ≠ t := fun h ↦ hother (h ▸ hholder)
    simp [exec, hopen, htx, hrows, hholder, hself, hbusy]

theorem busyTimeout_of_queued {t' : Ticket} {stmt : Statement}
    (hqueued : (s.exec t stmt).1 = .queued t') : s.busyTimeout ≠ 0 := by
  intro hbusy
  unfold exec at hqueued
  simp only [hbusy, if_true] at hqueued
  repeat' split at hqueued
  all_goals exact nomatch hqueued

theorem busyTimeout_of_schemaQueued (hqueued : s.createSchema.1 = .queued t) :
    s.busyTimeout ≠ 0 := by
  intro hbusy
  unfold createSchema at hqueued
  simp only [hbusy, if_true] at hqueued
  repeat' split at hqueued
  all_goals exact nomatch hqueued

/-- A call for another ticket leaves the lock with its holder. -/
theorem holder_answer (hholder : s.lock.holder = some t) {c : interface.Call}
    (hother : c.ticket? ≠ some t) : (Store.answer c s).2.lock.holder = some t := by
  have hne {t' : Ticket} (hticket : c.ticket? = some t') : t' ≠ t :=
    fun heq ↦ hother (heq ▸ hticket)
  have hheld {t' : Ticket} (ht : t' ≠ t) : ¬ s.lock.holder = some t' := by
    simp [hholder, ht.symm]
  have hleave {t' : Ticket} (ht : t' ≠ t) : (s.lock.leave t').holder = some t := by
    rw [Guarded.holder_leave, if_neg (hheld ht), hholder]
  cases c with
  | begin =>
    simp only [Store.answer, Store.begin]
    split <;> exact hholder
  | exec t' stmt =>
    have ht : t ≠ t' := (hne rfl).symm
    simp only [Store.answer, exec, hholder, ht, if_false, Lock.request]
    repeat' split
    all_goals first | exact hholder | rfl
  | resume t' stmt =>
    simp only [Store.answer, resume, if_neg (hheld (hne rfl))]
    split <;> exact hleave (hne rfl)
  | query t' q =>
    simp only [Store.answer, query_snd]
    exact hholder
  | commit t' =>
    simp only [Store.answer, commit]
    repeat' split
    all_goals first | exact hleave (hne rfl) | exact hholder
  | rollback t' => exact hleave (hne rfl)
  | createSchema =>
    simp only [Store.answer, createSchema, hholder, Lock.request]
    repeat' split
    all_goals first | exact hholder | rfl
  | resumeSchema t' =>
    simp only [Store.answer, resumeSchema, if_neg (hheld (hne rfl))]
    exact hleave (hne rfl)
  | close => exact hholder

/-- No call changes the busy timeout or takes a ticket back. -/
theorem answer_keeps (c : interface.Call) (s : Store) :
    (Store.answer c s).2.busyTimeout = s.busyTimeout ∧
      s.nextTicket ≤ (Store.answer c s).2.nextTicket := by
  cases c
  all_goals
    simp only [Store.answer, Store.begin, exec, execWithLock, applyStatement, resume, query_snd,
      commit, rollback, createSchema, installTable, resumeSchema]
  all_goals repeat' split
  all_goals simp [Store.endTransaction, leaveLock, setTransaction]

end Calls

namespace History

variable {timeout : Nat} {h h' : History} {t : Ticket} {σ : Session} {m : Move}

/-! ## Tickets over time -/

theorem busyTimeout_after (h : History) (m : Move) :
    (h.after m).store.busyTimeout = h.store.busyTimeout := by
  cases m with
  | call c => exact (answer_keeps c h.store).1
  | drop t => rfl

theorem Reachable.busyTimeout (hreach : Reachable timeout h) :
    h.store.busyTimeout = timeout := by
  induction hreach with
  | start => rfl
  | move m _ _ ih => exact (busyTimeout_after _ m).trans ih

theorem nextTicket_after (h : History) (m : Move) :
    h.store.nextTicket ≤ (h.after m).store.nextTicket := by
  cases m with
  | call c => exact (answer_keeps c h.store).2
  | drop t => exact Nat.le_refl _

/-- A move is only ever about a ticket in use. -/
theorem Legal.uses_ne_none (hlegal : h.Legal m) (hticket : m.ticket? = some t) :
    h.uses t ≠ none := by
  cases m with
  | drop t' =>
    obtain rfl : t' = t := Option.some.inj hticket
    exact hlegal
  | call c =>
    cases c with
    | begin | createSchema | close => exact absurd hticket (Option.some_ne_none t).symm
    | exec t' | resume t' | query t' | commit t' | rollback t' =>
      obtain rfl : t' = t := Option.some.inj hticket
      obtain ⟨σ, huse, _⟩ := hlegal
      exact huse ▸ Option.some_ne_none _
    | resumeSchema t' =>
      obtain rfl : t' = t := Option.some.inj hticket
      exact fun hnone ↦ Option.some_ne_none _ (Eq.trans (Eq.symm hlegal) hnone)

theorem uses_setUse_of_ne {t' : Ticket} (ht : t ≠ t') (use : Option Use) :
    (h.setUse t' use).uses t = h.uses t := by
  unfold setUse
  exact Function.update_of_ne ht use h.uses

theorem uses_change_of_ne {t' : Ticket} (ht : t ≠ t') (f : Session → Session) :
    (h.change t' f).uses t = h.uses t := by
  unfold change
  split
  · exact uses_setUse_of_ne ht _
  · rfl

theorem uses_settle_of_ne {t' : Ticket} (ht : t ≠ t') : (h.settle t').uses t = h.uses t := by
  unfold settle
  split
  · exact uses_setUse_of_ne ht none
  · rfl

/-- A ticket that has been given keeps its use while others move. -/
theorem uses_after (hgiven : t < h.store.nextTicket) (hother : m.ticket? ≠ some t) :
    (h.after m).uses t = h.uses t := by
  have hne {t' : Ticket} (hticket : m.ticket? = some t') : t ≠ t' :=
    fun heq ↦ hother (heq ▸ hticket)
  have hnew : t ≠ h.store.nextTicket := Nat.ne_of_lt hgiven
  cases m with
  | drop t' => exact uses_setUse_of_ne (hne rfl) none
  | call c =>
    change (h.note c (Store.answer c h.store).1).uses t = h.uses t
    cases c with
    | begin =>
      simp only [Store.answer, Store.begin]
      split
      · rfl
      · exact uses_setUse_of_ne hnew _
    | exec t' stmt =>
      simp only [Store.answer]
      rcases (h.store.exec t' stmt).1 with ⟨e | n⟩ | t''
      · rfl
      · exact uses_change_of_ne (hne rfl) _
      · exact uses_change_of_ne (hne rfl) _
    | resume t' stmt =>
      simp only [Store.answer]
      rcases (h.store.resume t' stmt).1 with e | n
      · exact uses_change_of_ne (hne rfl) _
      · exact uses_change_of_ne (hne rfl) _
    | query t' q => rfl
    | commit t' =>
      simp only [Store.answer]
      rcases (h.store.commit t').1 with e | n
      · exact uses_setUse_of_ne (hne rfl) none
      · exact uses_settle_of_ne (hne rfl)
    | rollback t' => exact uses_setUse_of_ne (hne rfl) none
    | createSchema =>
      have hcreates := creates h.store
      simp only [Store.answer]
      generalize h.store.createSchema = result at hcreates ⊢
      obtain ⟨answer, after⟩ := result
      cases hcreates with
      | closed | contended | done => rfl
      | queued => exact uses_setUse_of_ne hnew _
    | resumeSchema t' => exact uses_setUse_of_ne (hne rfl) none
    | close => rfl

/-- A ticket that is out of use stays so. -/
theorem uses_run {moves : List Move} (hgiven : t < h.store.nextTicket) (hover : h.uses t = none)
    (hrun : h.run moves = some h') : h'.uses t = none := by
  induction moves generalizing h with
  | nil => exact Option.some.inj hrun ▸ hover
  | cons m rest ih =>
    unfold run at hrun
    split at hrun
    case isTrue hlegal =>
      have hother : m.ticket? ≠ some t := fun hticket ↦ hlegal.uses_ne_none hticket hover
      refine ih (Nat.lt_of_lt_of_le hgiven (nextTicket_after h m)) ?_ hrun
      exact (uses_after hgiven hother).trans hover
    case isFalse => simp at hrun

theorem Reachable.holder_of_unused (hreach : Reachable timeout h) (hunused : h.uses t = none) :
    h.store.lock.holder ≠ some t :=
  fun hholder ↦ hreach.consistent.guarded.owned t hholder hunused

/-! ## Who has the lock -/

theorem uses_commit (huse : h.uses t = some (.transaction σ)) :
    (h.call (.commit t)).uses t = none := by
  change (h.note (.commit t) (h.store.commit t).1).uses t = none
  rcases (h.store.commit t).1 with e | n
  · simp [note, setUse]
  · simp [note, settle, huse, setUse]

/-- A statement of the transaction that has the lock leaves it there, whatever comes of it. -/
theorem Consistent.exec_holder (c : h.Consistent) (huse : h.uses t = some (.transaction σ))
    (hidle : σ.waiting = none) (hholder : h.store.lock.holder = some t) (stmt : Statement) :
    (h.store.exec t stmt).1 ≠ .settled (.error .contention) ∧
      (h.call (.exec t stmt)).Idle t ∧ (h.store.exec t stmt).2.lock.holder = some t := by
  have hexecutes := executes (c.tracked.transaction? huse) c.guarded.free stmt
  unfold History.call
  simp only [Store.answer]
  generalize h.store.exec t stmt = result at hexecutes ⊢
  obtain ⟨answer, after⟩ := result
  refine ⟨fun hrefused ↦ (hexecutes.reason hrefused).1 hholder, ?_⟩
  cases hexecutes with
  | closed | missing => exact ⟨⟨σ, huse, hidle⟩, hholder⟩
  | contended hother => exact absurd hholder hother
  | faulty => exact ⟨⟨σ, huse, hidle⟩, rfl⟩
  | done =>
    refine ⟨⟨σ.add stmt, ?_, rfl⟩, rfl⟩
    simp [note, change_transaction huse, setUse]
  | queued hother hne => exact absurd (Option.some.inj (hother.symm.trans hholder)) hne

/-- A transaction that has the lock keeps it while it is open. -/
theorem Consistent.keeps_lock (c : h.Consistent) (hidle : h.Idle t)
    (hholder : h.store.lock.holder = some t) (hlegal : h.Legal m)
    (hlive : (h.after m).uses t ≠ none) :
    (h.after m).Idle t ∧ (h.after m).store.lock.holder = some t := by
  obtain ⟨σ, huse, hrest⟩ := hidle
  have hgiven : t < h.store.nextTicket := c.tracked.lt_nextTicket huse
  -- Moves about other tickets do not touch its lock; of its own, only those that end it do.
  by_cases hticket : m.ticket? = some t
  case neg =>
    refine ⟨⟨σ, (uses_after hgiven hticket).trans huse, hrest⟩, ?_⟩
    cases m with
    | call call => exact holder_answer hholder hticket
    | drop t' =>
      have ht : ¬ h.store.lock.holder = some t' := fun heq ↦ hticket (heq.symm.trans hholder)
      exact ((Guarded.holder_leave h.store.lock t').trans (if_neg ht)).trans hholder
  case pos =>
    cases m with
    | drop t' =>
      obtain rfl : t' = t := Option.some.inj hticket
      exact absurd (Function.update_self ..) hlive
    | call call =>
      cases call with
      | begin | createSchema | close => exact absurd hticket (Option.some_ne_none t).symm
      | exec t' stmt =>
        obtain rfl : t' = t := Option.some.inj hticket
        exact (c.exec_holder huse hrest hholder stmt).2
      | resume t' stmt =>
        obtain rfl : t' = t := Option.some.inj hticket
        obtain ⟨σ', huse', hwaits⟩ := hlegal
        obtain rfl := transaction_inj (huse.symm.trans huse')
        exact absurd (hrest.symm.trans hwaits) (Option.some_ne_none stmt).symm
      | query t' q =>
        refine ⟨⟨σ, huse, hrest⟩, ?_⟩
        change (h.store.query t' q).2.lock.holder = some t
        rw [query_snd]
        exact hholder
      | commit t' =>
        obtain rfl : t' = t := Option.some.inj hticket
        exact absurd (uses_commit huse) hlive
      | rollback t' =>
        obtain rfl : t' = t := Option.some.inj hticket
        exact absurd (Function.update_self ..) hlive
      | resumeSchema t' =>
        obtain rfl : t' = t := Option.some.inj hticket
        simpa using huse.symm.trans hlegal

/-- A transaction that has got the lock has it for as long as it is open. -/
theorem Consistent.keeps_lock_run (c : h.Consistent) (hidle : h.Idle t)
    (hholder : h.store.lock.holder = some t) {moves : List Move} (hrun : h.run moves = some h')
    (hlive : h'.uses t ≠ none) : h'.Idle t ∧ h'.store.lock.holder = some t := by
  induction moves generalizing h with
  | nil =>
    obtain rfl := Option.some.inj hrun
    exact ⟨hidle, hholder⟩
  | cons m rest ih =>
    unfold run at hrun
    split at hrun
    case isTrue hlegal =>
      have hgiven : t < h.store.nextTicket := by
        obtain ⟨σ, huse, _⟩ := hidle
        exact c.tracked.lt_nextTicket huse
      have hstill : (h.after m).uses t ≠ none := fun hnone ↦
        hlive (uses_run (Nat.lt_of_lt_of_le hgiven (nextTicket_after h m)) hnone hrun)
      obtain ⟨hidle', hholder'⟩ := c.keeps_lock hidle hholder hlegal hstill
      exact ih (c.after hlegal) hidle' hholder' hrun
    case isFalse => simp at hrun

/-! ## Without patience -/

/-- Nobody waits for the lock. -/
def Prompt (h : History) : Prop :=
  ∀ t use, h.uses t = some use → ¬ use.Waiting

namespace Prompt

theorem setUse (hprompt : h.Prompt) {use : Option Use} (huse : ∀ u, use = some u → ¬ u.Waiting) :
    (h.setUse t use).Prompt := by
  intro t' u heq
  obtain ⟨_, hnew⟩ | ⟨_, hold⟩ := update_eq_some heq
  · exact huse u hnew
  · exact hprompt t' u hold

theorem setIdle (hprompt : h.Prompt) (hidle : σ.waiting = none) :
    (h.setUse t (some (.transaction σ))).Prompt := by
  apply hprompt.setUse
  rintro u heq hwaits
  obtain rfl := Option.some.inj heq
  exact hwaits hidle

theorem change (hprompt : h.Prompt) {f : Session → Session} (hf : ∀ σ, (f σ).waiting = none) :
    (h.change t f).Prompt := by
  unfold History.change
  split
  · exact hprompt.setIdle (hf _)
  · exact hprompt

theorem finish (hprompt : h.Prompt) : (h.setUse t none).Prompt :=
  hprompt.setUse nofun

theorem settle (hprompt : h.Prompt) : (h.settle t).Prompt := by
  unfold History.settle
  split
  · exact hprompt.finish
  · exact hprompt

/-- Without a busy timeout nobody comes to wait. -/
theorem after (hprompt : h.Prompt) (hbusy : h.store.busyTimeout = 0) (m : Move) :
    (h.after m).Prompt := by
  cases m with
  | drop t => exact hprompt.finish
  | call c =>
    change (h.note c (Store.answer c h.store).1).Prompt
    cases c with
    | begin =>
      simp only [Store.answer, Store.begin]
      split
      · exact hprompt
      · exact hprompt.setIdle rfl
    | exec t stmt =>
      cases hanswer : (Store.answer (.exec t stmt) h.store).1 with
      | settled result =>
        cases result with
        | error e => exact hprompt
        | ok n => exact hprompt.change fun _ ↦ rfl
      | queued t' => exact absurd hbusy (busyTimeout_of_queued hanswer)
    | resume t stmt =>
      simp only [Store.answer]
      rcases (h.store.resume t stmt).1 with e | n
      · exact hprompt.change fun _ ↦ rfl
      · exact hprompt.change fun _ ↦ rfl
    | query t q => exact hprompt
    | commit t =>
      simp only [Store.answer]
      rcases (h.store.commit t).1 with e | n
      · exact hprompt.finish
      · exact hprompt.settle
    | rollback t => exact hprompt.finish
    | createSchema =>
      cases hanswer : (Store.answer .createSchema h.store).1 with
      | settled result => exact hprompt
      | queued t => exact absurd hbusy (busyTimeout_of_schemaQueued hanswer)
    | resumeSchema t => exact hprompt.finish
    | close => exact hprompt

end Prompt

theorem Reachable.prompt (hreach : Reachable 0 h) : h.Prompt := by
  induction hreach with
  | start => exact nofun
  | move m hreach _ ih => exact ih.after hreach.busyTimeout m

/-- Without a busy timeout the lock is held by transactions alone. -/
theorem Reachable.holder (hreach : Reachable 0 h) (hholder : h.store.lock.holder = some t) :
    ∃ σ, h.uses t = some (.transaction σ) := by
  obtain ⟨use, huse⟩ := Option.ne_none_iff_exists'.1 (hreach.consistent.guarded.owned t hholder)
  cases use with
  | transaction σ => exact ⟨σ, huse⟩
  | creation => exact absurd trivial (hreach.prompt t .creation huse)

/-! ## What makes a conflict -/

/-- Another transaction has the lock, or one that has written has been committed since this one
began. -/
def Conflict (h : History) (t : Ticket) (σ : Session) : Prop :=
  h.store.lock.holder ≠ some t ∧
    ((∃ t' σ', t' ≠ t ∧ h.uses t' = some (.transaction σ') ∧ h.store.lock.holder = some t') ∨
      ∃ σ' ∈ h.commits.drop σ.begun, σ'.done ≠ [])

/-- The version has moved on exactly by the writes since a transaction began. -/
theorem Consistent.version_ne_iff (c : h.Consistent) (huse : h.uses t = some (.transaction σ))
    (hbase : σ.base.isSome) :
    h.store.version ≠ σ.version h.commits ↔ ∃ σ' ∈ h.commits.drop σ.begun, σ'.done ≠ [] := by
  have htable : h.store.table.isSome := (c.fits huse).table hbase
  have hsplit : writes h.commits =
      writes (h.commits.take σ.begun) + writes (h.commits.drop σ.begun) := by
    rw [← writes_append, List.take_append_drop]
  have hversion : h.store.version = σ.version h.commits + writes (h.commits.drop σ.begun) := by
    rw [c.recorded.version, Session.version, hsplit, htable, hbase]
    omega
  calc h.store.version ≠ σ.version h.commits
    _ ↔ 0 < writes (h.commits.drop σ.begun) := by omega
    _ ↔ _ := by simp [writes, List.countP_pos_iff]

/-- Without a busy timeout a statement is refused as a conflict exactly if there is one. -/
theorem Reachable.contention_iff (hreach : Reachable 0 h) (hopen : h.store.closed = false)
    (huse : h.uses t = some (.transaction σ)) (hbase : σ.base.isSome) (stmt : Statement) :
    (h.store.exec t stmt).1 = .settled (.error .contention) ↔ h.Conflict t σ := by
  have c := hreach.consistent
  have hversion := c.version_ne_iff huse hbase
  have hholder (hother : h.store.lock.holder ≠ some t) : h.store.lock.holder ≠ none ↔
      ∃ t' σ', t' ≠ t ∧ h.uses t' = some (.transaction σ') ∧ h.store.lock.holder = some t' := by
    constructor
    · intro hsome
      obtain ⟨t', ht'⟩ := Option.ne_none_iff_exists'.1 hsome
      obtain ⟨σ', huse'⟩ := hreach.holder ht'
      exact ⟨t', σ', fun heq ↦ hother (heq ▸ ht'), huse', ht'⟩
    · rintro ⟨t', σ', _, _, ht'⟩
      exact ht' ▸ Option.some_ne_none t'
  constructor
  · intro hrefused
    have hexecutes := executes (c.tracked.transaction? huse) c.guarded.free stmt
    obtain ⟨hother, hreason⟩ := hexecutes.reason hrefused
    exact ⟨hother, hreason.imp (hholder hother).1 hversion.1⟩
  · rintro ⟨hother, hreason⟩
    obtain ⟨rows, hview⟩ : ∃ rows, σ.view = some rows := by
      rw [← Option.ne_none_iff_exists']
      intro hnone
      rw [((c.fits huse).view hnone).1] at hbase
      exact absurd hbase Bool.false_ne_true
    apply exec_of_contended hopen (c.tracked.transaction? huse) hview hother hreach.busyTimeout
    exact hreason.imp (hholder hother).2 hversion.2

/-- While nobody has the lock, a transaction that begins gets it with its first statement. -/
theorem Reachable.begin_exec (hreach : Reachable timeout h) (hopen : h.store.closed = false)
    (htable : h.store.table.isSome) (hfree : h.store.lock.holder = none) (stmt : Statement) :
    h.store.begin.1 = .ok h.store.nextTicket ∧
      (h.store.begin.2.exec h.store.nextTicket stmt).1 ≠ .settled (.error .contention) ∧
      (h.store.begin.2.exec h.store.nextTicket stmt).2.lock.holder = some h.store.nextTicket := by
  have hbegin := begin_of_open hopen
  have c : (h.call .begin).Consistent := (hreach.move (.call .begin) trivial).consistent
  let σ : Session := ⟨h.commits.length, h.store.table, [], none⟩
  have huse : (h.call .begin).uses h.store.nextTicket = some (.transaction σ) := by
    rw [call_of_answer .begin hbegin]
    exact Function.update_self ..
  -- Nothing has been committed since it began, so it cannot be stale.
  have hversion : h.store.version = σ.version h.commits := by
    rw [hreach.consistent.recorded.version, Session.version, List.take_length]
  have hcommits : (h.call .begin).commits = h.commits := by
    rw [call_of_answer .begin hbegin]
    rfl
  have htx := c.tracked.transaction? huse
  have hexecutes := executes htx c.guarded.free stmt
  rw [hcommits] at hexecutes
  change Executes h.store.begin.2 _ _ _ (h.store.begin.2.exec _ stmt).1
    (h.store.begin.2.exec _ stmt).2 at hexecutes
  rw [hbegin] at hexecutes ⊢
  refine ⟨rfl, ?_⟩
  generalize Store.exec _ _ stmt = result at hexecutes ⊢
  obtain ⟨answer, after⟩ := result
  have haccepted : answer ≠ .settled (.error .contention) := by
    intro hrefused
    obtain ⟨_, hholder | hstale⟩ := hexecutes.reason hrefused
    · exact hholder hfree
    · exact hstale hversion
  refine ⟨haccepted, ?_⟩
  cases hexecutes with
  | closed hclosed => exact absurd (hopen.symm.trans hclosed) Bool.false_ne_true
  | missing hmissing =>
    have hview : σ.view = h.store.table := Session.view_of_done rfl
    rw [← hview] at htable
    exact absurd (Option.isSome_iff_ne_none.1 htable) (not_not_intro hmissing)
  | contended => exact absurd rfl haccepted
  | faulty | done => rfl
  | queued hholder => exact absurd (hfree.symm.trans hholder) (Option.some_ne_none _).symm

end History

end Turnstile.Store
