import Turnstile.Proofs.Store.Preservation
import Turnstile.Proofs.Tasks.Standing

/-!
# What a task does to the history

A task that keeps to the protocol makes only calls that the store allows, and stands afterwards where
the protocol says.  Its calls leave the tickets of others alone, and they change the committed rows
only when they commit a transaction that has written.
-/

namespace Turnstile

open Store (History Session Statement Ticket Use)

namespace Standing

/-- The ticket that a task holds. -/
def ticket? (s : Standing) : Option Ticket :=
  s.use.map Prod.fst

/-- The task holds what it thinks it holds. -/
structure Fits (s : Standing) (h : History) : Prop where
  use : ∀ t u, s.use = some (t, u) → h.uses t = some u
  earliest : s.deeds.earliest ≤ h.commits.length

/-- A turn of a task takes one history to another. -/
structure Leads (h h' : History) (s s' : Standing) : Prop where
  fits : s'.Fits h'
  others : ∀ t u, h.uses t = some u → s.ticket? ≠ some t → h'.uses t = some u
  fresh : ∀ t, s'.ticket? = some t → s.ticket? = some t ∨ h.uses t = none
  deeds : ∃ new, h'.commits = h.commits ++ new ∧
    s'.deeds.committed = s.deeds.committed ++ new ∧ s'.deeds.earliest = s.deeds.earliest ∧
    (h'.store.rows ≠ h.store.rows → 0 < Store.writes new)

variable {h h' : History} {s s' : Standing} {d : Deeds} {t : Ticket} {σ : Session}

/-- A call that changes neither tickets nor commits nor rows. -/
theorem Leads.keep (hfits : s.Fits h) (huses : h'.uses = h.uses) (hcommits : h'.commits = h.commits)
    (hrows : h'.store.rows = h.store.rows) (huse : s'.use = s.use)
    (hcommitted : s'.deeds.committed = s.deeds.committed)
    (hearliest : s'.deeds.earliest = s.deeds.earliest) : Leads h h' s s' where
  fits := by
    constructor
    · intro t u hheld
      rw [huses]
      exact hfits.use t u (huse ▸ hheld)
    · rw [hearliest, hcommits]
      exact hfits.earliest
  others _ _ hold _ := huses ▸ hold
  fresh t ht := by
    unfold ticket? at ht ⊢
    rw [huse] at ht
    exact .inl ht
  deeds := ⟨[], hcommits.trans (List.append_nil _).symm, hcommitted.trans (List.append_nil _).symm,
    hearliest, fun hne ↦ absurd hrows hne⟩

/-- A call that tells nothing new. -/
theorem Leads.refl (hfits : s.Fits h) (huses : h'.uses = h.uses) (hcommits : h'.commits = h.commits)
    (hrows : h'.store.rows = h.store.rows) : Leads h h' s s :=
  .keep hfits huses hcommits hrows rfl rfl rfl

/-- A call that gives one ticket another use, with the commits that it makes. -/
theorem Leads.update {use : Option Use} {new : List Session} (hfits : s.Fits h)
    (ht : s.ticket? = some t ∨ s.ticket? = none ∧ h.uses t = none)
    (huses : h'.uses = Function.update h.uses t use) (huse : s'.use = use.map fun u ↦ (t, u))
    (hcommits : h'.commits = h.commits ++ new)
    (hcommitted : s'.deeds.committed = s.deeds.committed ++ new)
    (hearliest : s'.deeds.earliest = s.deeds.earliest)
    (hrows : h'.store.rows ≠ h.store.rows → 0 < Store.writes new) : Leads h h' s s' where
  fits := by
    constructor
    · intro t' u hheld
      rw [huse] at hheld
      cases use with
      | none => exact absurd hheld.symm (Option.some_ne_none _)
      | some u' =>
        obtain ⟨rfl, rfl⟩ := Prod.mk.inj (Option.some.inj hheld)
        rw [huses, Function.update_self]
    · rw [hearliest, hcommits, List.length_append]
      have hearliest := hfits.earliest
      omega
  others t' u hold hother := by
    have hne : t' ≠ t := by
      rintro rfl
      rcases ht with hself | ⟨_, hnone⟩
      · exact hother hself
      · exact absurd (hold.symm.trans hnone) (Option.some_ne_none u)
    rw [huses, Function.update_of_ne hne]
    exact hold
  fresh t' hheld := by
    unfold ticket? at hheld
    rw [huse, Option.map_map] at hheld
    cases use with
    | none => exact absurd hheld.symm (Option.some_ne_none _)
    | some u =>
      obtain rfl : t = t' := Option.some.inj hheld
      exact ht.imp_right And.right
  deeds := ⟨new, hcommits, hcommitted, hearliest, hrows⟩

/-- A call that gives one ticket another use and commits nothing. -/
theorem Leads.assign {use : Option Use} (hfits : s.Fits h)
    (ht : s.ticket? = some t ∨ s.ticket? = none ∧ h.uses t = none)
    (huses : h'.uses = Function.update h.uses t use) (huse : s'.use = use.map fun u ↦ (t, u))
    (hcommits : h'.commits = h.commits) (hdeeds : s'.deeds = s.deeds)
    (hrows : h'.store.rows = h.store.rows) : Leads h h' s s' :=
  .update hfits ht huses huse (hcommits.trans (List.append_nil _).symm)
    ((congrArg Deeds.committed hdeeds).trans (List.append_nil _).symm)
    (congrArg Deeds.earliest hdeeds) (fun hne ↦ absurd hrows hne)

/-! ## Statements and queries -/

theorem leads_exec (c : h.Consistent) (hfits : Fits ⟨d, some (t, .transaction σ)⟩ h)
    (stmt : Statement) :
    ∃ s', Follows ⟨d, some (t, .transaction σ)⟩ (.exec t stmt) (h.store.exec t stmt).1 s' ∧
      Leads h (h.call (.exec t stmt)) ⟨d, some (t, .transaction σ)⟩ s' := by
  have huse : h.uses t = some (.transaction σ) := hfits.use t _ rfl
  have hexecutes := Store.executes (c.tracked.transaction? huse) c.guarded.free stmt
  unfold History.call
  simp only [Store.answer]
  generalize h.store.exec t stmt = result at hexecutes ⊢
  obtain ⟨answer, after⟩ := result
  cases hexecutes with
  | closed | missing | contended | faulty =>
    exact ⟨_, .refused stmt _, .refl hfits rfl rfl rfl⟩
  | done henters hrows happly =>
    refine ⟨_, .done hrows happly, ?_⟩
    simp only [History.note, History.change_transaction huse]
    exact .assign hfits (.inl rfl) rfl rfl rfl rfl rfl
  | queued =>
    refine ⟨_, .queued stmt, ?_⟩
    simp only [History.note, History.change_transaction huse]
    exact .assign hfits (.inl rfl) rfl rfl rfl rfl rfl

theorem leads_resume (c : h.Consistent) (hfits : Fits ⟨d, some (t, .transaction σ)⟩ h)
    (stmt : Statement) :
    ∃ s', Follows ⟨d, some (t, .transaction σ)⟩ (.resume t stmt) (h.store.resume t stmt).1 s' ∧
      Leads h (h.call (.resume t stmt)) ⟨d, some (t, .transaction σ)⟩ s' := by
  have huse : h.uses t = some (.transaction σ) := hfits.use t _ rfl
  have hresumes := Store.resumes (c.tracked.transaction? huse) stmt
  unfold History.call
  simp only [Store.answer]
  generalize h.store.resume t stmt = result at hresumes ⊢
  obtain ⟨answer, after⟩ := result
  cases hresumes with
  | contended | missing | faulty =>
    refine ⟨_, .conceded stmt _, ?_⟩
    simp only [History.note, History.change_transaction huse]
    exact .assign hfits (.inl rfl) rfl rfl rfl rfl rfl
  | done hholder hversion hrows happly =>
    refine ⟨_, .resumed hrows happly, ?_⟩
    simp only [History.note, History.change_transaction huse]
    exact .assign hfits (.inl rfl) rfl rfl rfl rfl rfl

theorem leads_query (c : h.Consistent) (hfits : Fits ⟨d, some (t, .transaction σ)⟩ h)
    (q : Store.Query) :
    ∃ s', Follows ⟨d, some (t, .transaction σ)⟩ (.query t q) (h.store.query t q).1 s' ∧
      Leads h (h.call (.query t q)) ⟨d, some (t, .transaction σ)⟩ s' := by
  have huse : h.uses t = some (.transaction σ) := hfits.use t _ rfl
  have hanswers := Store.answers (c.tracked.transaction? huse) q
  have hleads : Leads h (h.call (.query t q)) ⟨d, some (t, .transaction σ)⟩
      ⟨d, some (t, .transaction σ)⟩ :=
    .refl hfits rfl rfl (congrArg Store.rows (Store.query_snd q))
  refine ⟨_, ?_, hleads⟩
  generalize (h.store.query t q).1 = answer at hanswers
  cases hanswers with
  | closed | missing | faulty => exact .notFound t q _
  | found hrows hselect => exact .found hrows hselect

/-! ## Transactions -/

theorem leads_begin (c : h.Consistent) (hfits : Fits ⟨d, none⟩ h) :
    ∃ s', Follows ⟨d, none⟩ .begin h.store.begin.1 s' ∧ Leads h (h.call .begin) ⟨d, none⟩ s' := by
  cases hclosed : h.store.closed with
  | true =>
    rw [History.call_of_answer .begin (Store.begin_of_closed hclosed),
      Store.begin_of_closed hclosed]
    exact ⟨_, .notBegun _, .refl hfits rfl rfl rfl⟩
  | false =>
    rw [History.call_of_answer .begin (Store.begin_of_open hclosed), Store.begin_of_open hclosed]
    let σ : Session := ⟨h.commits.length, h.store.table, [], none⟩
    refine ⟨⟨d, some (h.store.nextTicket, .transaction σ)⟩, .begun _ hfits.earliest rfl rfl, ?_⟩
    have hnew := c.tracked.unused h.store.nextTicket (Nat.le_refl _)
    exact .assign hfits (.inr ⟨rfl, hnew⟩) rfl rfl rfl rfl rfl

theorem leads_commit (c : h.Consistent) (hfits : Fits ⟨d, some (t, .transaction σ)⟩ h) :
    ∃ s', Follows ⟨d, some (t, .transaction σ)⟩ (.commit t) (h.store.commit t).1 s' ∧
      Leads h (h.call (.commit t)) ⟨d, some (t, .transaction σ)⟩ s' := by
  have huse : h.uses t = some (.transaction σ) := hfits.use t _ rfl
  have htx := c.tracked.transaction? huse
  cases hclosed : h.store.closed with
  | true =>
    rw [History.call_of_answer (.commit t) (Store.commit_of_closed hclosed),
      Store.commit_of_closed hclosed]
    exact ⟨_, .notCommitted _, .assign hfits (.inl rfl) rfl rfl rfl rfl rfl⟩
  | false =>
    by_cases hclean : σ.done = []
    · have hdirty : (σ.transaction h.commits).dirty = false := by simp [Session.transaction, hclean]
      rw [History.call_of_answer (.commit t) (Store.commit_of_clean hclosed htx hdirty),
        Store.commit_of_clean hclosed htx hdirty]
      refine ⟨_, .committed, ?_⟩
      simp only [History.note, History.settle_transaction huse]
      exact .update hfits (.inl rfl) rfl rfl rfl rfl rfl (fun hne ↦ absurd rfl hne)
    · have hdirty : (σ.transaction h.commits).dirty = true := by simp [Session.transaction, hclean]
      rw [History.call_of_answer (.commit t) (Store.commit_of_dirty hclosed htx hdirty),
        Store.commit_of_dirty hclosed htx hdirty]
      refine ⟨_, .committed, ?_⟩
      simp only [History.note, History.settle_transaction huse]
      exact .update hfits (.inl rfl) rfl rfl rfl rfl rfl (fun _ ↦ by simp [Store.writes, hclean])

/-- A ticket is given up without a trace. -/
theorem leads_drop {u : Use} (hfits : Fits ⟨d, some (t, u)⟩ h) :
    Leads h (h.drop t) ⟨d, some (t, u)⟩ ⟨d, none⟩ :=
  .assign hfits (.inl rfl) rfl rfl rfl rfl rfl

/-! ## The table -/

theorem leads_createSchema (c : h.Consistent) (hfits : Fits ⟨d, none⟩ h) :
    ∃ s', Follows ⟨d, none⟩ .createSchema h.store.createSchema.1 s' ∧
      Leads h (h.call .createSchema) ⟨d, none⟩ s' := by
  have hcreates := Store.creates h.store
  unfold History.call
  simp only [Store.answer]
  generalize h.store.createSchema = result at hcreates ⊢
  obtain ⟨answer, after⟩ := result
  cases hcreates with
  | closed | contended => exact ⟨_, .schemaSettled _, .refl hfits rfl rfl rfl⟩
  | done => exact ⟨_, .schemaSettled _, .refl hfits rfl rfl (Store.rows_installTable _ _)⟩
  | queued =>
    refine ⟨_, .schemaQueued _, ?_⟩
    have hnew := c.tracked.unused h.store.nextTicket (Nat.le_refl _)
    exact .assign hfits (.inr ⟨rfl, hnew⟩) rfl rfl rfl rfl rfl

theorem leads_resumeSchema (hfits : Fits ⟨d, some (t, .creation)⟩ h) :
    ∃ s', Follows ⟨d, some (t, .creation)⟩ (.resumeSchema t) (h.store.resumeSchema t).1 s' ∧
      Leads h (h.call (.resumeSchema t)) ⟨d, some (t, .creation)⟩ s' := by
  refine ⟨_, .schemaResumed _, ?_⟩
  have hrows : (h.store.resumeSchema t).2.rows = h.store.rows := by
    unfold Store.resumeSchema
    split
    · exact Store.rows_installTable _ _
    · rfl
  exact .assign hfits (.inl rfl) rfl rfl rfl rfl hrows

/-! ## Every call -/

theorem Follows.changes {c : Store.interface.Call} {a : Store.interface.Answer c}
    (hfollows : s.Follows c a s') : s'.deeds.changes = s.deeds.changes := by
  cases hfollows <;> rfl

theorem leads_call (c : h.Consistent) (hfits : s.Fits h) {call : Store.Call}
    (hpermits : s.Permits call) :
    h.Allows call ∧ ∃ s', s.Follows call (Store.answer call h.store).1 s' ∧
      Leads h (h.call call) s s' := by
  obtain ⟨d, use⟩ := s
  cases call with
  | begin =>
    obtain rfl : use = none := hpermits
    exact ⟨trivial, leads_begin c hfits⟩
  | exec t stmt =>
    obtain ⟨σ, rfl, hidle⟩ := hpermits
    exact ⟨⟨σ, hfits.use t _ rfl, hidle⟩, leads_exec c hfits stmt⟩
  | resume t stmt =>
    obtain ⟨σ, rfl, hwaits⟩ := hpermits
    exact ⟨⟨σ, hfits.use t _ rfl, hwaits⟩, leads_resume c hfits stmt⟩
  | query t q =>
    obtain ⟨σ, rfl, hidle⟩ := hpermits
    exact ⟨⟨σ, hfits.use t _ rfl, hidle⟩, leads_query c hfits q⟩
  | commit t =>
    obtain ⟨σ, rfl, hidle⟩ := hpermits
    exact ⟨⟨σ, hfits.use t _ rfl, hidle⟩, leads_commit c hfits⟩
  | rollback t =>
    obtain ⟨σ, rfl, hidle⟩ := hpermits
    exact ⟨⟨σ, hfits.use t _ rfl, hidle⟩, _, .rolledBack, leads_drop hfits⟩
  | createSchema =>
    obtain rfl : use = none := hpermits
    exact ⟨trivial, leads_createSchema c hfits⟩
  | resumeSchema t =>
    obtain rfl : use = some (t, .creation) := hpermits
    exact ⟨hfits.use t _ rfl, leads_resumeSchema hfits⟩
  | close => exact ⟨trivial, _, .closed _, .refl hfits rfl rfl rfl⟩

end Standing

end Turnstile
