import Turnstile.Proofs.Tasks.Standing

/-!
# Transactions of tasks

Rules for the actions on the store, in terms of what a transaction has seen and done.  A body of
statements and queries is judged by the transaction that it leaves behind, and only where it succeeds:
a transaction is committed exactly after a success of its body, so a failure leaves no deed.
-/

namespace Turnstile

open Store (Query Row Session Statement Ticket)

namespace Database

variable {α β : Type} {During : Deeds → Prop} {d : Deeds} {t : Ticket} {σ : Session}

/-- The action keeps to the protocol of the store, with `During` true of what the task has done at
every call. -/
def Meets (During : Deeds → Prop) (Q : Except Error α → Standing → Prop) (p : DbAction α)
    (s : Standing) : Prop :=
  Action.Meets Store.protocol (fun s ↦ During s.deeds) Q p s

theorem Meets.bind {Q : Except Error β → Standing → Prop} {p : DbAction α} {f : α → DbAction β}
    {s : Standing}
    (hp : Meets During (Action.Continues Store.protocol (fun s ↦ During s.deeds) Q f) p s) :
    Meets During Q (p >>= f) s :=
  Action.Meets.bind hp

/-! ## Calls -/

theorem meets_begin {Q : Except Error Ticket → Standing → Prop} (hduring : During d)
    (hfail : ∀ e, Q (.error e) ⟨d, none⟩)
    (hbegun : ∀ t σ, d.earliest ≤ σ.begun → σ.done = [] → σ.waiting = none →
      Q (.ok t) ⟨d, some (t, .transaction σ)⟩) : Meets During Q begin ⟨d, none⟩ := by
  refine ⟨hduring, rfl, ?_⟩
  intro a s' hfollows
  cases hfollows with
  | notBegun e => exact hfail e
  | begun t hearliest hdone hidle => exact hbegun t _ hearliest hdone hidle

theorem meets_exec {Q : Except Error Nat → Standing → Prop} {stmt : Statement}
    (hduring : During d) (hidle : σ.waiting = none)
    (hrefused : ∀ e, Q (.error e) ⟨d, some (t, .transaction σ)⟩)
    (hdone : ∀ rows after n, σ.view = some rows → stmt.apply rows = .ok (after, n) →
      Q (.ok n) ⟨d, some (t, .transaction (σ.add stmt))⟩) :
    Meets During Q (exec t stmt) ⟨d, some (t, .transaction σ)⟩ := by
  refine ⟨hduring, ⟨σ, rfl, hidle⟩, ?_⟩
  intro a s' hfollows
  cases hfollows with
  | refused _ e => exact hrefused e
  | done hview happly => exact hdone _ _ _ hview happly
  | queued =>
    refine ⟨hduring, ⟨σ.queue stmt, rfl, rfl⟩, ?_⟩
    intro a s' hfollows
    cases hfollows with
    | conceded _ e =>
      have hsame : (σ.queue stmt).rest = σ := by
        unfold Session.queue Session.rest
        rw [← hidle]
      rw [hsame]
      exact hrefused e
    | resumed hview happly => exact hdone _ _ _ hview happly

theorem meets_query {Q : Except Error (List Row) → Standing → Prop} {q : Query}
    (hduring : During d) (hidle : σ.waiting = none)
    (hrefused : ∀ e, Q (.error e) ⟨d, some (t, .transaction σ)⟩)
    (hfound : ∀ rows selected, σ.view = some rows → q.select rows = .ok selected →
      Q (.ok selected) ⟨d, some (t, .transaction σ)⟩) :
    Meets During Q (query t q) ⟨d, some (t, .transaction σ)⟩ := by
  refine ⟨hduring, ⟨σ, rfl, hidle⟩, ?_⟩
  intro a s' hfollows
  cases hfollows with
  | notFound _ _ e => exact hrefused e
  | found hview hselect => exact hfound _ _ hview hselect

theorem meets_commit {Q : Except Error Unit → Standing → Prop} (hduring : During d)
    (hidle : σ.waiting = none) (hrefused : ∀ e, Q (.error e) ⟨d, none⟩)
    (hcommitted : Q (.ok ()) ⟨d.commit σ, none⟩) :
    Meets During Q (commit t) ⟨d, some (t, .transaction σ)⟩ := by
  refine ⟨hduring, ⟨σ, rfl, hidle⟩, ?_⟩
  intro a s' hfollows
  cases hfollows with
  | notCommitted e => exact hrefused e
  | committed => exact hcommitted

theorem meets_rollback {Q : Except Error Unit → Standing → Prop} (hduring : During d)
    (hidle : σ.waiting = none) (hrolledBack : Q (.ok ()) ⟨d, none⟩) :
    Meets During Q (rollback t) ⟨d, some (t, .transaction σ)⟩ := by
  refine ⟨hduring, ⟨σ, rfl, hidle⟩, ?_⟩
  intro a s' hfollows
  cases hfollows with
  | rolledBack => exact hrolledBack

/-! ## Bodies -/

/-- Within a transaction the action makes only statements and queries, one after another, and if it
succeeds, `R` is true of its result and of the transaction that it leaves. -/
def Runs (During : Deeds → Prop) (d : Deeds) (t : Ticket) (R : α → Session → Prop)
    (p : DbAction α) (σ : Session) : Prop :=
  Meets During
    (fun r s ↦ ∃ σ', s = ⟨d, some (t, .transaction σ')⟩ ∧ σ'.waiting = none ∧
      ∀ a, r = .ok a → R a σ')
    p ⟨d, some (t, .transaction σ)⟩

theorem runs_pure {R : α → Session → Prop} {a : α} (hidle : σ.waiting = none) (hR : R a σ) :
    Runs During d t R (pure a) σ := by
  refine ⟨σ, rfl, hidle, ?_⟩
  intro a' heq
  obtain rfl : a = a' := Except.ok.inj heq
  exact hR

theorem Runs.imp {R R' : α → Session → Prop} {p : DbAction α} (hp : Runs During d t R p σ)
    (hR : ∀ a σ', R a σ' → R' a σ') : Runs During d t R' p σ := by
  apply Action.Meets.imp hp
  rintro r s ⟨σ', hs, hidle, hr⟩
  exact ⟨σ', hs, hidle, fun a heq ↦ hR a σ' (hr a heq)⟩

theorem Runs.bind {R : β → Session → Prop} {p : DbAction α} {f : α → DbAction β}
    (hp : Runs During d t
      (fun a σ' ↦ σ'.waiting = none → Runs During d t R (f a) σ') p σ) :
    Runs During d t R (p >>= f) σ := by
  apply Action.Meets.andThen hp
  · rintro a _ ⟨σ', rfl, hidle, hR⟩
    exact hR a rfl hidle
  · rintro e _ ⟨σ', rfl, hidle, _⟩
    exact ⟨σ', rfl, hidle, fun a heq ↦ nomatch heq⟩

theorem runs_exec {R : Nat → Session → Prop} {stmt : Statement} (hduring : During d)
    (hidle : σ.waiting = none)
    (hR : ∀ rows after n, σ.view = some rows → stmt.apply rows = .ok (after, n) →
      R n (σ.add stmt)) : Runs During d t R (exec t stmt) σ := by
  apply meets_exec hduring hidle
  · intro e
    exact ⟨σ, rfl, hidle, fun a heq ↦ nomatch heq⟩
  · intro rows after n hview happly
    refine ⟨σ.add stmt, rfl, rfl, ?_⟩
    intro a heq
    obtain rfl : n = a := Except.ok.inj heq
    exact hR rows after n hview happly

theorem runs_query {R : List Row → Session → Prop} {q : Query} (hduring : During d)
    (hidle : σ.waiting = none)
    (hR : ∀ rows selected, σ.view = some rows → q.select rows = .ok selected → R selected σ) :
    Runs During d t R (query t q) σ := by
  apply meets_query hduring hidle
  · intro e
    exact ⟨σ, rfl, hidle, fun a heq ↦ nomatch heq⟩
  · intro rows selected hview hselect
    refine ⟨σ, rfl, hidle, ?_⟩
    intro a heq
    obtain rfl : selected = a := Except.ok.inj heq
    exact hR rows selected hview hselect

/-! ## Whole transactions -/

/-- A body in a transaction of its own: what it has done counts if it succeeds and is committed, and
otherwise nothing is left of it. -/
theorem meets_transact {Q : Except Error α → Standing → Prop} {body : Ticket → DbAction α}
    (hduring : During d) (hfail : ∀ e, Q (.error e) ⟨d, none⟩)
    (hbody : ∀ t σ, d.earliest ≤ σ.begun → σ.done = [] → σ.waiting = none →
      Runs During d t (fun a σ' ↦ Q (.ok a) ⟨d.commit σ', none⟩) (body t) σ) :
    Meets During Q (transact body) ⟨d, none⟩ := by
  apply Action.Meets.bind
  apply meets_begin hduring hfail
  intro t σ hearliest hdone hidle
  apply Action.Meets.bind
  apply Program.Meets.bind
  apply Program.Meets.imp (hbody t σ hearliest hdone hidle)
  intro r s hr
  obtain ⟨σ', rfl, hidle', hR⟩ := hr
  cases r with
  | ok a => exact Action.Meets.bind (meets_commit hduring hidle' hfail (hR a rfl))
  | error e => exact Action.Meets.bind (meets_rollback hduring hidle' (hfail e))

theorem meets_execAlone {Q : Except Error Nat → Standing → Prop} {stmt : Statement}
    (hduring : During d) (hfail : ∀ e, Q (.error e) ⟨d, none⟩)
    (hdone : ∀ σ rows after n, d.earliest ≤ σ.begun → σ.done = [stmt] → σ.base = some rows →
      stmt.apply rows = .ok (after, n) → Q (.ok n) ⟨d.commit σ, none⟩) :
    Meets During Q (execAlone stmt) ⟨d, none⟩ := by
  apply meets_transact hduring hfail
  intro t σ hearliest hnone hidle
  apply runs_exec hduring hidle
  intro rows after n hview happly
  have hown : (σ.add stmt).done = [stmt] := congrArg (· ++ [stmt]) hnone
  have hbase : σ.base = some rows := Session.base_of_view hnone hview
  exact hdone (σ.add stmt) rows after n hearliest hown hbase happly

theorem meets_queryAlone {Q : Except Error (List Row) → Standing → Prop} {q : Query}
    (hduring : During d) (hfail : ∀ e, Q (.error e) ⟨d, none⟩)
    (hfound : ∀ σ rows selected, d.earliest ≤ σ.begun → σ.done = [] → σ.base = some rows →
      q.select rows = .ok selected → Q (.ok selected) ⟨d.commit σ, none⟩) :
    Meets During Q (queryAlone q) ⟨d, none⟩ := by
  apply meets_transact hduring hfail
  intro t σ hearliest hnone hidle
  apply runs_query hduring hidle
  intro rows selected hview hselect
  exact hfound σ rows selected hearliest hnone (Session.base_of_view hnone hview) hselect

end Database

/-- An action on the store does as part of the service what it does alone. -/
theorem Service.meets_onStore {α : Type} {During : Deeds → Prop}
    {Q : Except Error α → Standing → Prop} {p : Database.DbAction α} {s : Standing}
    (hp : Database.Meets During Q p s) :
    Action.Meets Service.protocol (fun s ↦ During s.deeds) Q (onStore p) s := by
  apply Action.Meets.interpret ?_ hp
  intro c s hduring hpermits
  exact ⟨hduring, hpermits, fun _ _ hfollows ↦ hfollows⟩

end Turnstile
