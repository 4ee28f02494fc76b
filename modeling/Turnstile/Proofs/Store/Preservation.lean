import Turnstile.Proofs.Store.Consistency
import Turnstile.Proofs.Store.Steps

/-!
# Every call keeps the history consistent

A statement that succeeds adds to what its transaction sees, under the lock and on the rows that are
committed; a commit turns what the transaction sees into the committed rows; everything else leaves
the committed rows as they are.  So a history that can be reached explains its store.
-/

namespace Turnstile.Store

variable {h h' : History} {t : Ticket} {σ : Session}

/-! ## Parts that do not change -/

/-- Only the commits and the committed rows count for what is recorded. -/
theorem Recorded.congr (hrecorded : Recorded h) (hcommits : h'.commits = h.commits)
    (htable : h'.store.table = h.store.table) (hversion : h'.store.version = h.store.version) :
    Recorded h' where
  rows := by
    rw [hcommits, hrecorded.rows, Store.rows, Store.rows, htable]
  version := by
    rw [hcommits, hversion, htable]
    exact hrecorded.version
  based before σ after heq := hrecorded.based before σ after (hcommits ▸ heq)
  serial before σ after heq := hrecorded.serial before σ after (hcommits ▸ heq)

theorem concat_eq_split {α : Type} {l before after : List α} {a b : α}
    (heq : l ++ [a] = before ++ b :: after) :
    l = before ∧ a = b ∨ ∃ rest, l = before ++ b :: rest := by
  obtain rfl | ⟨rest, last, rfl⟩ := List.eq_nil_or_concat after
  · obtain ⟨hl, ha⟩ := List.append_inj' heq rfl
    exact .inl ⟨hl, List.head_eq_of_cons_eq ha⟩
  · rw [List.concat_eq_append, ← List.cons_append, ← List.append_assoc] at heq
    exact .inr ⟨rest, (List.append_inj' heq rfl).1⟩

/-- The table has been made. -/
theorem Recorded.install (hrecorded : Recorded h) (htable : h.store.table = none)
    (hcommits : h'.commits = h.commits) (hmade : h'.store.table = some [])
    (hversion : h'.store.version = h.store.version + 1) : Recorded h' where
  rows := by
    rw [hcommits, hrecorded.rows, Store.rows, Store.rows, hmade, htable]
    rfl
  version := by
    have hold := hrecorded.version
    rw [htable] at hold
    simpa [hcommits, hversion, hmade] using hold
  based before σ after heq := hrecorded.based before σ after (hcommits ▸ heq)
  serial before σ after heq := hrecorded.serial before σ after (hcommits ▸ heq)

/-- Another transaction has been committed. -/
theorem Recorded.concat (hrecorded : Recorded h) (hbased : σ.Based h.commits)
    (hcommits : h'.commits = h.commits ++ [σ])
    (hrows : replay (statements h'.commits) [] = some h'.store.rows)
    (hversion : h'.store.version = writes h'.commits + h'.store.table.isSome.toNat)
    (hserial : σ.done ≠ [] → σ.rows = h.store.rows) : Recorded h' where
  rows := hrows
  version := hversion
  based before σ' after heq := by
    obtain ⟨rfl, rfl⟩ | ⟨rest, hold⟩ := concat_eq_split (hcommits.symm.trans heq)
    · exact hbased
    · exact hrecorded.based before σ' rest hold
  serial before σ' after heq hwritten := by
    obtain ⟨rfl, rfl⟩ | ⟨rest, hold⟩ := concat_eq_split (hcommits.symm.trans heq)
    · rw [hserial hwritten]
      exact hrecorded.rows
    · exact hrecorded.serial before σ' rest hold hwritten

theorem Session.Fits.grow {more : List Session} (hfits : σ.Fits h)
    (hcommits : h'.commits = h.commits ++ more)
    (htable : h.store.table.isSome → h'.store.table.isSome) : σ.Fits h' where
  based := hcommits ▸ hfits.based.append more
  table hbase := htable (hfits.table hbase)
  view := hfits.view

theorem Tracked.lt_nextTicket (htracked : Tracked h) {use : Use} (huse : h.uses t = some use) :
    t < h.store.nextTicket := by
  by_contra hle
  have hnone := htracked.unused t (Nat.le_of_not_lt hle)
  rw [huse] at hnone
  exact absurd hnone (Option.some_ne_none use)

theorem Tracked.transaction? (htracked : Tracked h)
    (huse : h.uses t = some (.transaction σ)) :
    h.store.transaction? t = some (σ.transaction h.commits) := by
  rw [htracked.transactions, huse]
  rfl

theorem Session.view_add {rows after : List Row} {stmt : Statement} {n : Nat}
    (hrows : σ.view = some rows) (happly : stmt.apply rows = .ok (after, n)) :
    (σ.add stmt).view = some after := by
  obtain ⟨base, hbase, hdone⟩ := Option.bind_eq_some_iff.1 hrows
  exact Option.bind_eq_some_iff.2 ⟨base, hbase, replay_concat hdone happly⟩

theorem Session.transaction_add {rows : List Row} {stmt : Statement}
    (hview : (σ.add stmt).view = some rows) (commits : List Session) :
    (σ.add stmt).transaction commits =
      { σ.transaction commits with table := some rows, dirty := true } := by
  unfold Session.transaction
  rw [hview]
  simp [Session.add, Session.version]

/-- One ticket gets another use and the others keep theirs. -/
theorem Tracked.update (htracked : Tracked h) {use : Option Use} {more : List Session}
    (hcommits : h'.commits = h.commits ++ more)
    (htable : h.store.table.isSome → h'.store.table.isSome)
    (hnext : h.store.nextTicket ≤ h'.store.nextTicket) (ht : t < h'.store.nextTicket)
    (huses : h'.uses = Function.update h.uses t use)
    (hothers : ∀ t', t' ≠ t → h'.store.transaction? t' = h.store.transaction? t')
    (hself : h'.store.transaction? t = use.bind (Use.transaction? h'.commits))
    (hfits : ∀ σ, use = some (.transaction σ) → σ.Fits h') : Tracked h' where
  unused t' hle := by
    have hne : t' ≠ t := Nat.ne_of_gt (Nat.lt_of_lt_of_le ht hle)
    rw [huses, Function.update_of_ne hne]
    exact htracked.unused t' (Nat.le_trans hnext hle)
  transactions t' := by
    by_cases hne : t' = t
    · subst hne
      rw [hself, huses, Function.update_self]
    · rw [hothers t' hne, huses, Function.update_of_ne hne, htracked.transactions]
      cases huse : h.uses t' with
      | none => rfl
      | some old =>
        cases old with
        | creation => rfl
        | transaction σ =>
          have hbased := (htracked.fits t' σ huse).based
          simp only [Option.bind_some, Use.transaction?, hcommits, hbased.transaction_append]
  fits t' σ huse := by
    rw [huses] at huse
    obtain ⟨_, heq⟩ | ⟨_, hold⟩ := update_eq_some huse
    · exact hfits σ heq
    · exact (htracked.fits t' σ hold).grow hcommits htable

/-- A transaction begins or ends a wait, which the store does not keep. -/
theorem Tracked.wait (htracked : Tracked h) (huse : h.uses t = some (.transaction σ))
    (waiting : Option Statement) {s : Store} (htable : s.table = h.store.table)
    (hnext : s.nextTicket = h.store.nextTicket)
    (htransactions : s.transactions = h.store.transactions) :
    Tracked { h.setUse t (some (.transaction { σ with waiting })) with store := s } := by
  have hsame (t' : Ticket) : s.transaction? t' = h.store.transaction? t' := by
    unfold Store.transaction?
    rw [htransactions]
  have htx : s.transaction? t = some (σ.transaction h.commits) :=
    (hsame t).trans (htracked.transaction? huse)
  refine htracked.update (List.append_nil _).symm (fun hsome ↦ htable ▸ hsome)
    (Nat.le_of_eq hnext.symm) (hnext ▸ htracked.lt_nextTicket huse) rfl (fun t' _ ↦ hsame t')
    htx ?_
  intro σ' heq
  obtain rfl : { σ with waiting } = σ' := transaction_inj heq
  have hfits := htracked.fits t σ huse
  exact ⟨hfits.based, fun hbase ↦ htable ▸ hfits.table hbase, hfits.view⟩

/-- All tickets keep their uses. -/
theorem Tracked.keep (htracked : Tracked h) (hcommits : h'.commits = h.commits)
    (htable : h.store.table.isSome → h'.store.table.isSome)
    (hnext : h.store.nextTicket ≤ h'.store.nextTicket) (huses : h'.uses = h.uses)
    (htransactions : h'.store.transactions = h.store.transactions) : Tracked h' where
  unused t hle := by
    rw [huses]
    exact htracked.unused t (Nat.le_trans hnext hle)
  transactions t := by
    rw [huses, hcommits, ← htracked.transactions, Store.transaction?, htransactions]
    rfl
  fits t σ huse := by
    rw [huses] at huse
    exact (htracked.fits t σ huse).grow (hcommits.trans (List.append_nil _).symm) htable

namespace History

theorem setUse_self {use : Use} (huse : h.uses t = some use) : h.setUse t (some use) = h := by
  unfold setUse
  rw [← huse, Function.update_eq_self]

theorem call_of_answer (c : Call) {a : interface.Answer c} {s : Store}
    (hanswer : Store.answer c h.store = (a, s)) : h.call c = { h.note c a with store := s } := by
  unfold call
  rw [hanswer]

theorem settle_transaction (huse : h.uses t = some (.transaction σ)) :
    h.settle t = { h.setUse t none with commits := h.commits ++ [σ] } := by
  simp [settle, huse]

theorem change_transaction (huse : h.uses t = some (.transaction σ)) (f : Session → Session) :
    h.change t f = h.setUse t (some (.transaction (f σ))) := by
  simp [change, huse]

theorem consistent_start (busyTimeout : Nat) : (start busyTimeout).Consistent where
  recorded :=
    { rows := rfl
      version := rfl
      based := by simp [start]
      serial := by simp [start] }
  tracked :=
    { unused := by simp [start]
      transactions := by simp [start, Store.empty, Store.transaction?]
      fits := by simp [start] }
  guarded := Guarded.start

namespace Consistent

theorem fits (c : h.Consistent) (huse : h.uses t = some (.transaction σ)) : σ.Fits h :=
  c.tracked.fits t σ huse

/-! ## Statements -/

/-- The transaction of a statement that has been refused keeps the lock. -/
theorem retain (c : h.Consistent) (huse : h.uses t = some (.transaction σ))
    (hfree : h.store.lock.holder = none ∨ h.store.lock.holder = some t) (hcurrent : h.Current σ) :
    { h.setUse t (some (.transaction σ.rest)) with store := h.store.hold t }.Consistent where
  recorded := c.recorded.congr rfl rfl rfl
  tracked := c.tracked.wait huse none rfl rfl rfl
  guarded := c.guarded.hold hfree rfl hcurrent

/-- A statement succeeds under the lock. -/
theorem write (c : h.Consistent) (huse : h.uses t = some (.transaction σ))
    (hfree : h.store.lock.holder = none ∨ h.store.lock.holder = some t) (hcurrent : h.Current σ)
    {rows after : List Row} {n : Nat} {stmt : Statement} (hrows : σ.view = some rows)
    (happly : stmt.apply rows = .ok (after, n)) :
    { h.setUse t (some (.transaction (σ.add stmt))) with
      store := (h.store.hold t).written t (σ.transaction h.commits) after }.Consistent where
  recorded := c.recorded.congr rfl rfl rfl
  tracked := by
    have hview := Session.view_add hrows happly
    refine c.tracked.update (List.append_nil _).symm id (Nat.le_refl _)
      (c.tracked.lt_nextTicket huse) rfl ?_ ?_ ?_
    · intro t' ht
      exact (transaction?_setTransaction ..).trans (if_neg ht)
    · refine (transaction?_setTransaction ..).trans ?_
      have hold : (h.store.hold t).transaction? t = some (σ.transaction h.commits) :=
        c.tracked.transaction? huse
      rw [if_pos rfl, hold, Option.map_some, ← Session.transaction_add hview h.commits]
      rfl
    · intro σ' heq
      obtain rfl : σ.add stmt = σ' := transaction_inj heq
      refine ⟨(c.fits huse).based, (c.fits huse).table, ?_⟩
      intro hnone
      exact absurd (hview.symm.trans hnone) (Option.some_ne_none after)
  guarded := c.guarded.hold hfree rfl hcurrent

/-- A statement lines up behind the transaction that holds the lock. -/
theorem queue (c : h.Consistent) (huse : h.uses t = some (.transaction σ))
    (hidle : σ.waiting = none) {holder : Ticket} (hholder : h.store.lock.holder = some holder)
    (hother : holder ≠ t) (stmt : Statement) :
    { h.setUse t (some (.transaction (σ.queue stmt))) with
      store := { h.store with lock := h.store.lock.request t } }.Consistent where
  recorded := c.recorded.congr rfl rfl rfl
  tracked := c.tracked.wait huse (some stmt) rfl rfl rfl
  guarded := by
    refine c.guarded.lineUp hholder hother ?_ (Option.some_ne_none stmt) ?_
    · intro use hold hwaiting
      obtain rfl : use = .transaction σ := Option.some.inj (hold.symm.trans huse)
      exact hwaiting hidle
    · intro σ' heq
      obtain rfl : σ.queue stmt = σ' := Use.transaction.inj heq
      by_contra hwritten
      have hself := c.guarded.holds t σ huse hwritten
      exact hother (Option.some.inj (hholder.symm.trans hself))

/-- A statement that has waited is refused as a conflict. -/
theorem concede (c : h.Consistent) (huse : h.uses t = some (.transaction σ))
    (hwaits : σ.waiting ≠ none) :
    { h.setUse t (some (.transaction σ.rest)) with store := h.store.leaveLock t }.Consistent where
  recorded := c.recorded.congr rfl rfl rfl
  tracked := c.tracked.wait huse none rfl rfl rfl
  guarded := by
    refine c.guarded.leave ?_ (fun _ _ _ _ _ hcurrent ↦ hcurrent)
    intro u heq
    exact ⟨σ.rest, (Option.some.inj heq).symm, rfl, c.guarded.patient t σ huse hwaits⟩

/-! ## Transactions -/

/-- The first of the calls of a transaction opens it on the committed rows. -/
theorem begin (c : h.Consistent) :
    { h.setUse h.store.nextTicket
        (some (.transaction ⟨h.commits.length, h.store.table, [], none⟩)) with
      store :=
        { h.store with
          transactions := h.store.transactions ++
            [(h.store.nextTicket, (⟨h.store.version, h.store.table, false⟩ : Transaction))]
          nextTicket := h.store.nextTicket + 1 } }.Consistent where
  recorded := c.recorded.congr rfl rfl rfl
  tracked := by
    have hunused : h.uses h.store.nextTicket = none := c.tracked.unused _ (Nat.le_refl _)
    have hnew : h.store.transactions.lookup h.store.nextTicket = none := by
      have hnone := c.tracked.transactions h.store.nextTicket
      rwa [hunused] at hnone
    have hview : (⟨h.commits.length, h.store.table, [], none⟩ : Session).view = h.store.table := by
      unfold Session.view
      cases h.store.table <;> rfl
    refine c.tracked.update (List.append_nil _).symm id (Nat.le_succ _) (Nat.lt_succ_self _) rfl
      ?_ ?_ ?_
    · intro t' ht
      simp [Store.transaction?, List.lookup_append, lookup_cons_of_ne _ _ _ ht]
    · simp only [Store.transaction?, List.lookup_append, hnew, Option.none_or,
        List.lookup_cons_self, Option.bind_some, Use.transaction?, Session.transaction, hview,
        Session.version, setUse, List.take_length, ← c.recorded.version]
      rfl
    · intro σ heq
      obtain rfl := transaction_inj heq
      constructor
      case based =>
        refine ⟨Nat.le_refl _, ?_⟩
        exact (congrArg (fun commits ↦ replay (statements commits) []) List.take_length).trans
          c.recorded.rows
      case table => exact id
      case view =>
        intro hnone
        exact ⟨hview.symm.trans hnone, rfl⟩
  guarded := c.guarded.begin (c.tracked.unused _ (Nat.le_refl _)) rfl

/-- A ticket is given back without a trace. -/
theorem finish (c : h.Consistent) (huse : h.uses t ≠ none) :
    { h.setUse t none with store := h.store.endTransaction t }.Consistent where
  recorded := c.recorded.congr rfl rfl rfl
  tracked := by
    obtain ⟨use, huse⟩ := Option.ne_none_iff_exists'.1 huse
    refine c.tracked.update (List.append_nil _).symm id (Nat.le_refl _)
      (c.tracked.lt_nextTicket huse) rfl ?_ ?_ (by simp)
    · intro t' ht
      exact (transaction?_endTransaction ..).trans (if_neg ht)
    · exact (transaction?_endTransaction ..).trans (if_pos rfl)
  guarded := c.guarded.leave (by simp) (fun _ _ _ _ _ hcurrent ↦ hcurrent)

/-- A transaction that has not written is committed. -/
theorem commitClean (c : h.Consistent) (huse : h.uses t = some (.transaction σ))
    (hclean : σ.done = []) :
    { h.setUse t none with
      store := h.store.endTransaction t
      commits := h.commits ++ [σ] }.Consistent where
  recorded := by
    refine c.recorded.concat (c.fits huse).based rfl ?_ ?_ (fun hwritten ↦ absurd hclean hwritten)
    · rw [statements_concat, hclean, List.append_nil]
      exact c.recorded.rows
    · have hwrites : writes (h.commits ++ [σ]) = writes h.commits := by
        simp [writes, hclean]
      rw [hwrites]
      exact c.recorded.version
  tracked := by
    refine c.tracked.update rfl id (Nat.le_refl _) (c.tracked.lt_nextTicket huse) rfl ?_ ?_
      (by simp)
    · intro t' ht
      exact (transaction?_endTransaction ..).trans (if_neg ht)
    · exact (transaction?_endTransaction ..).trans (if_pos rfl)
  guarded := by
    apply c.guarded.leave (by simp)
    intro t' σ' _ hold _ hcurrent
    exact ((c.fits hold).based.version_append [σ]).trans hcurrent

/-- A transaction that has written is committed: it started from the committed rows, which nobody
else can have changed since. -/
theorem commitWritten (c : h.Consistent) (huse : h.uses t = some (.transaction σ))
    (hidle : σ.waiting = none) (hwritten : σ.done ≠ []) :
    { h.setUse t none with
      store :=
        { h.store.endTransaction t with table := σ.view, version := h.store.version + 1 }
      commits := h.commits ++ [σ] }.Consistent := by
  have hholder : h.store.lock.holder = some t := c.guarded.holds t σ huse hwritten
  have hcurrent : h.Current σ := c.guarded.current t σ huse hidle hholder
  have hbase : σ.base = h.store.table := (c.fits huse).base_eq_table c.recorded hcurrent
  have hsame : σ.rows = h.store.rows := congrArg (·.getD []) hbase
  obtain ⟨rows, hview⟩ : ∃ rows, σ.view = some rows := by
    rw [← Option.ne_none_iff_exists']
    exact fun hnone ↦ hwritten ((c.fits huse).view hnone).2
  obtain ⟨base, hsome, hdone⟩ := Option.bind_eq_some_iff.1 hview
  have hrows : σ.rows = base := congrArg (·.getD []) hsome
  constructor
  case recorded =>
    refine c.recorded.concat (c.fits huse).based rfl ?_ ?_ (fun _ ↦ hsame)
    · calc replay (statements (h.commits ++ [σ])) []
        _ = (replay (statements h.commits) []).bind (replay σ.done) := by
          rw [statements_concat, replay_append]
        _ = replay σ.done base := by rw [c.recorded.rows, ← hsame, hrows, Option.bind_some]
        _ = some (σ.view.getD []) := by rw [hdone, hview, Option.getD_some]
    · have hwrites : writes (h.commits ++ [σ]) = writes h.commits + 1 := by
        simp [writes, hwritten]
      have hversion := c.recorded.version
      rw [← hbase, hsome] at hversion
      simp only [hwrites, hversion, hview, Option.isSome_some]
      omega
  case tracked =>
    refine c.tracked.update rfl (fun _ ↦ ?_) (Nat.le_refl _) (c.tracked.lt_nextTicket huse) rfl
      ?_ ?_ (by simp)
    · exact Option.isSome_of_eq_some hview
    · intro t' ht
      exact (transaction?_endTransaction ..).trans (if_neg ht)
    · exact (transaction?_endTransaction ..).trans (if_pos rfl)
  case guarded =>
    apply c.guarded.leave (by simp)
    intro t' σ' ht _ hholder'
    exact absurd (Option.some.inj (hholder'.symm.trans hholder)) ht

/-! ## The table -/

/-- A schema creation lines up behind the transaction that holds the lock. -/
theorem queueCreation (c : h.Consistent) {holder : Ticket}
    (hholder : h.store.lock.holder = some holder) :
    { h.setUse h.store.nextTicket (some .creation) with
      store :=
        { h.store with
          lock := h.store.lock.request h.store.nextTicket
          nextTicket := h.store.nextTicket + 1 } }.Consistent where
  recorded := c.recorded.congr rfl rfl rfl
  tracked := by
    have hunused : h.uses h.store.nextTicket = none := c.tracked.unused _ (Nat.le_refl _)
    have hnone := c.tracked.transactions h.store.nextTicket
    rw [hunused] at hnone
    exact c.tracked.update (List.append_nil _).symm id (Nat.le_succ _) (Nat.lt_succ_self _) rfl
      (fun _ _ ↦ rfl) hnone (by simp)
  guarded := by
    have hunused : h.uses h.store.nextTicket = none := c.tracked.unused _ (Nat.le_refl _)
    refine c.guarded.lineUp hholder ?_ ?_ trivial (by simp)
    · exact fun heq ↦ c.guarded.owned holder hholder (heq ▸ hunused)
    · simp [hunused]

/-- The table is made while nobody holds the lock. -/
theorem install (c : h.Consistent) (hfree : h.store.lock.holder = none) :
    { h with
      store := Store.installTable
        { h.store with
          lock := h.store.lock.request h.store.nextTicket
          nextTicket := h.store.nextTicket + 1 }
        h.store.nextTicket }.Consistent := by
  have hnext := Nat.le_succ h.store.nextTicket
  have hlock := leave_request h.store.nextTicket hfree (c.guarded.free hfree)
  cases htable : h.store.table with
  | none =>
    simp only [installTable, leaveLock, hlock, htable]
    constructor
    case recorded => exact c.recorded.install htable rfl rfl rfl
    case tracked => exact c.tracked.keep rfl (fun _ ↦ rfl) hnext rfl rfl
    case guarded =>
      apply c.guarded.imp
      intro t σ _ hholder
      exact absurd (hfree.symm.trans hholder) (Option.some_ne_none t).symm
  | some rows =>
    simp only [installTable, leaveLock, hlock, htable]
    constructor
    case recorded => exact c.recorded.congr rfl htable.symm rfl
    case tracked => exact c.tracked.keep rfl (fun _ ↦ rfl) hnext rfl rfl
    case guarded => exact c.guarded

/-- A schema creation gives up its place, or the lock without having made the table. -/
theorem yield (c : h.Consistent) (huse : h.uses t = some .creation) :
    { h.setUse t none with store := h.store.leaveLock t }.Consistent where
  recorded := c.recorded.congr rfl rfl rfl
  tracked := by
    have hnone := c.tracked.transactions t
    rw [huse] at hnone
    exact c.tracked.update (List.append_nil _).symm id (Nat.le_refl _)
      (c.tracked.lt_nextTicket huse) rfl (fun _ _ ↦ rfl) hnone (by simp)
  guarded := c.guarded.leave (by simp) (fun _ _ _ _ _ hcurrent ↦ hcurrent)

/-- A schema creation that has got the lock makes the table. -/
theorem installWaited (c : h.Consistent) (huse : h.uses t = some .creation)
    (hholder : h.store.lock.holder = some t) :
    { h.setUse t none with store := h.store.installTable t }.Consistent := by
  cases htable : h.store.table with
  | some rows =>
    rw [installTable_of_some htable]
    exact c.yield huse
  | none =>
    rw [installTable_of_none htable]
    constructor
    case recorded => exact c.recorded.install htable rfl rfl rfl
    case tracked =>
      have hnone := c.tracked.transactions t
      rw [huse] at hnone
      exact c.tracked.update (List.append_nil _).symm (fun _ ↦ rfl) (Nat.le_refl _)
        (c.tracked.lt_nextTicket huse) rfl (fun _ _ ↦ rfl) hnone (by simp)
    case guarded =>
      apply c.guarded.leave (by simp)
      intro t' σ ht _ hholder'
      exact absurd (Option.some.inj (hholder'.symm.trans hholder)) ht

end Consistent

/-! ## Every move -/

/-- A statement of a transaction that is open. -/
theorem Consistent.exec (c : h.Consistent) (huse : h.uses t = some (.transaction σ))
    (hidle : σ.waiting = none) (stmt : Statement) : (h.call (.exec t stmt)).Consistent := by
  have htx := c.tracked.transaction? huse
  have hself : h.setUse t (some (.transaction σ.rest)) = h := by
    unfold Session.rest
    rw [← hidle]
    exact setUse_self huse
  have hcurrent (henters : h.store.Enters t (σ.transaction h.commits)) : h.Current σ := by
    rcases henters with hholder | ⟨_, hversion⟩
    · exact c.guarded.current t σ huse hidle hholder
    · exact hversion.symm
  have hfree (henters : h.store.Enters t (σ.transaction h.commits)) :
      h.store.lock.holder = none ∨ h.store.lock.holder = some t :=
    henters.elim .inr fun hnobody ↦ .inl hnobody.1
  have hexecutes := executes htx c.guarded.free stmt
  unfold call
  simp only [Store.answer]
  generalize h.store.exec t stmt = result at hexecutes ⊢
  obtain ⟨answer, after⟩ := result
  cases hexecutes with
  | closed => exact c
  | missing => exact c
  | contended => exact c
  | faulty henters =>
    have hretained := c.retain huse (hfree henters) (hcurrent henters)
    rwa [hself] at hretained
  | done henters hrows happly =>
    have hwritten := c.write huse (hfree henters) (hcurrent henters) hrows happly
    simp only [note, change_transaction huse]
    exact hwritten
  | queued hholder hother =>
    have hqueued := c.queue huse hidle hholder hother stmt
    simp only [note, change_transaction huse]
    exact hqueued

/-- The end of the wait of a statement. -/
theorem Consistent.resume (c : h.Consistent) (huse : h.uses t = some (.transaction σ))
    {stmt : Statement} (hwaits : σ.waiting = some stmt) :
    (h.call (.resume t stmt)).Consistent := by
  have hwaiting : σ.waiting ≠ none := hwaits ▸ Option.some_ne_none stmt
  have hresumes := resumes (c.tracked.transaction? huse) stmt
  unfold call
  simp only [Store.answer]
  generalize h.store.resume t stmt = result at hresumes ⊢
  obtain ⟨answer, after⟩ := result
  cases hresumes with
  | contended =>
    simp only [note, change_transaction huse]
    exact c.concede huse hwaiting
  | missing hholder hversion =>
    have hretained := c.retain huse (.inr hholder) hversion.symm
    rw [hold_of_holder hholder] at hretained
    simp only [note, change_transaction huse]
    exact hretained
  | faulty hholder hversion =>
    have hretained := c.retain huse (.inr hholder) hversion.symm
    rw [hold_of_holder hholder] at hretained
    simp only [note, change_transaction huse]
    exact hretained
  | done hholder hversion hrows happly =>
    have hwritten := c.write huse (.inr hholder) hversion.symm hrows happly
    rw [hold_of_holder hholder] at hwritten
    simp only [note, change_transaction huse]
    exact hwritten

theorem Consistent.commit (c : h.Consistent) (huse : h.uses t = some (.transaction σ))
    (hidle : σ.waiting = none) : (h.call (.commit t)).Consistent := by
  have hused : h.uses t ≠ none := huse ▸ Option.some_ne_none _
  have htx := c.tracked.transaction? huse
  cases hclosed : h.store.closed with
  | true =>
    rw [call_of_answer (.commit t) (commit_of_closed hclosed)]
    exact c.finish hused
  | false =>
    by_cases hclean : σ.done = []
    · have hdirty : (σ.transaction h.commits).dirty = false := by simp [Session.transaction, hclean]
      rw [call_of_answer (.commit t) (commit_of_clean hclosed htx hdirty)]
      simp only [note, settle_transaction huse]
      exact c.commitClean huse hclean
    · have hdirty : (σ.transaction h.commits).dirty = true := by simp [Session.transaction, hclean]
      rw [call_of_answer (.commit t) (commit_of_dirty hclosed htx hdirty)]
      simp only [note, settle_transaction huse]
      exact c.commitWritten huse hidle hclean

theorem Consistent.createSchema (c : h.Consistent) : (h.call .createSchema).Consistent := by
  have hcreates := creates h.store
  unfold call
  simp only [Store.answer]
  generalize h.store.createSchema = result at hcreates ⊢
  obtain ⟨answer, after⟩ := result
  cases hcreates with
  | closed => exact c
  | contended => exact c
  | done hholder => exact c.install hholder
  | queued hholder => exact c.queueCreation hholder

theorem Consistent.resumeSchema (c : h.Consistent) (huse : h.uses t = some .creation) :
    (h.call (.resumeSchema t)).Consistent := by
  unfold call
  simp only [Store.answer, Store.resumeSchema, note]
  by_cases hholder : h.store.lock.holder = some t
  · rw [if_pos hholder]
    exact c.installWaited huse hholder
  · rw [if_neg hholder]
    exact c.yield huse

/-- A store that is closed keeps what it has. -/
theorem Consistent.close (c : h.Consistent) : (h.call .close).Consistent where
  recorded := c.recorded.congr rfl rfl rfl
  tracked := c.tracked.keep rfl id (Nat.le_refl _) rfl rfl
  guarded := c.guarded

theorem Consistent.call (c : h.Consistent) {call : Call} (hallows : h.Allows call) :
    (h.call call).Consistent := by
  cases call with
  | begin =>
    cases hclosed : h.store.closed with
    | true =>
      rw [call_of_answer .begin (begin_of_closed hclosed)]
      exact c
    | false =>
      rw [call_of_answer .begin (begin_of_open hclosed)]
      exact c.begin
  | exec t stmt =>
    obtain ⟨σ, huse, hidle⟩ := hallows
    exact c.exec huse hidle stmt
  | resume t stmt =>
    obtain ⟨σ, huse, hwaits⟩ := hallows
    exact c.resume huse hwaits
  | query t q =>
    unfold History.call
    simp only [Store.answer, query_snd, note]
    exact c
  | commit t =>
    obtain ⟨σ, huse, hidle⟩ := hallows
    exact c.commit huse hidle
  | rollback t =>
    obtain ⟨σ, huse, _⟩ := hallows
    exact c.finish (huse ▸ Option.some_ne_none _)
  | createSchema => exact c.createSchema
  | resumeSchema t => exact c.resumeSchema hallows
  | close => exact c.close

theorem Consistent.after (c : h.Consistent) {m : Move} (hlegal : h.Legal m) :
    (h.after m).Consistent := by
  cases m with
  | call call => exact c.call hlegal
  | drop t => exact c.finish hlegal

/-- Every history that can be reached explains its store. -/
theorem Reachable.consistent {busyTimeout : Nat} (hreach : Reachable busyTimeout h) :
    h.Consistent := by
  induction hreach with
  | start => exact consistent_start busyTimeout
  | move m _ hlegal c => exact c.after hlegal

end History

end Turnstile.Store
