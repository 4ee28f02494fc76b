import Mathlib.Data.List.Nodup
import Turnstile.Proofs.Store.History

/-!
# Who owns the lock

The lock has one holder, so a transaction that has written is safe from others as long as it holds
the lock, and whoever waits has written nothing.  A holder that does not wait has checked that
nobody has committed since it began; what counts as up to date is left to a parameter, which changes
when a commit moves on the committed rows.
-/

namespace Turnstile.Store

/-- Whether a use stands in the queue of the lock, or has not yet noticed that it holds it. -/
def Use.Waiting : Use → Prop
  | .transaction σ => σ.waiting ≠ none
  | .creation => True

/-- The lock fits the uses of the tickets. -/
structure Guarded (l : Lock) (uses : Ticket → Option Use) (Current : Session → Prop) : Prop where
  holds : ∀ t σ, uses t = some (.transaction σ) → σ.done ≠ [] → l.holder = some t
  current : ∀ t σ, uses t = some (.transaction σ) → σ.waiting = none → l.holder = some t →
    Current σ
  patient : ∀ t σ, uses t = some (.transaction σ) → σ.waiting ≠ none → σ.done = []
  queued : ∀ t ∈ l.waiting, ∃ use, uses t = some use ∧ use.Waiting
  owned : ∀ t, l.holder = some t → uses t ≠ none
  nodup : l.waiting.Nodup
  apart : ∀ t, l.holder = some t → t ∉ l.waiting
  free : l.holder = none → l.waiting = []

/-- A changed use is the new one of the ticket, or the old one of another ticket. -/
theorem update_eq_some {uses : Ticket → Option Use} {t t' : Ticket} {use : Option Use} {u : Use}
    (h : Function.update uses t use t' = some u) :
    t' = t ∧ use = some u ∨ t' ≠ t ∧ uses t' = some u := by
  by_cases ht : t' = t
  · subst ht
    exact .inl ⟨rfl, by rwa [Function.update_self] at h⟩
  · rw [Function.update_of_ne ht] at h
    exact .inr ⟨ht, h⟩

theorem transaction_inj {σ σ' : Session} (h : some (Use.transaction σ) = some (.transaction σ')) :
    σ = σ' :=
  Use.transaction.inj (Option.some.inj h)

namespace Guarded

variable {l : Lock} {uses : Ticket → Option Use} {Current Current' : Session → Prop} {t : Ticket}

theorem start : Guarded .free (fun _ ↦ none) Current where
  holds := by simp
  current := by simp
  patient := by simp
  queued := by simp [Lock.free]
  owned := by simp [Lock.free]
  nodup := List.nodup_nil
  apart := by simp [Lock.free]
  free _ := rfl

theorem imp (g : Guarded l uses Current)
    (hcurrent : ∀ t σ, uses t = some (.transaction σ) → l.holder = some t → Current σ → Current' σ) :
    Guarded l uses Current' where
  holds := g.holds
  current t σ huse hidle hholder :=
    hcurrent t σ huse hholder (g.current t σ huse hidle hholder)
  patient := g.patient
  queued := g.queued
  owned := g.owned
  nodup := g.nodup
  apart := g.apart
  free := g.free

theorem notMem_waiting (g : Guarded l uses Current)
    (hidle : ∀ use, uses t = some use → ¬ use.Waiting) : t ∉ l.waiting := by
  intro hmem
  obtain ⟨use, huse, hwaiting⟩ := g.queued t hmem
  exact hidle use huse hwaiting

/-- A ticket that has not been in use begins a transaction. -/
theorem begin (g : Guarded l uses Current) (hnew : uses t = none) {σ : Session}
    (hdone : σ.done = []) :
    Guarded l (Function.update uses t (some (.transaction σ))) Current := by
  have hholder : l.holder ≠ some t := fun h ↦ g.owned t h hnew
  have hqueue : t ∉ l.waiting := g.notMem_waiting (by simp [hnew])
  constructor
  case holds =>
    intro t' σ' huse hwritten
    obtain ⟨_, heq⟩ | ⟨_, hold⟩ := update_eq_some huse
    · exact absurd (transaction_inj heq ▸ hdone) hwritten
    · exact g.holds t' σ' hold hwritten
  case current =>
    intro t' σ' huse hrest hholds
    obtain ⟨rfl, _⟩ | ⟨_, hold⟩ := update_eq_some huse
    · exact absurd hholds hholder
    · exact g.current t' σ' hold hrest hholds
  case patient =>
    intro t' σ' huse hwaits
    obtain ⟨_, heq⟩ | ⟨_, hold⟩ := update_eq_some huse
    · exact transaction_inj heq ▸ hdone
    · exact g.patient t' σ' hold hwaits
  case queued =>
    intro t' hmem
    have ht : t' ≠ t := fun ht ↦ hqueue (ht ▸ hmem)
    rw [Function.update_of_ne ht]
    exact g.queued t' hmem
  case owned =>
    intro t' hholds
    have ht : t' ≠ t := fun ht ↦ hholder (ht ▸ hholds)
    rw [Function.update_of_ne ht]
    exact g.owned t' hholds
  case nodup => exact g.nodup
  case apart => exact g.apart
  case free => exact g.free

/-- A transaction that has the lock, or takes it while nobody has it, goes on. -/
theorem hold (g : Guarded l uses Current) (hfree : l.holder = none ∨ l.holder = some t)
    {σ : Session} (hidle : σ.waiting = none) (hcurrent : Current σ) :
    Guarded { l with holder := some t } (Function.update uses t (some (.transaction σ)))
      Current := by
  have hqueue : t ∉ l.waiting := by
    rcases hfree with hnone | hholder
    · rw [g.free hnone]
      exact List.not_mem_nil
    · exact g.apart t hholder
  have hother {t' : Ticket} (ht : t' ≠ t) : l.holder ≠ some t' := by
    rcases hfree with h | h <;> rw [h]
    · exact (Option.some_ne_none t').symm
    · exact fun h' ↦ ht (Option.some.inj h').symm
  constructor
  case holds =>
    intro t' σ' huse hwritten
    obtain ⟨rfl, _⟩ | ⟨ht, hold⟩ := update_eq_some huse
    · rfl
    · exact absurd (g.holds t' σ' hold hwritten) (hother ht)
  case current =>
    intro t' σ' huse _ hholds
    obtain ⟨_, heq⟩ | ⟨ht, _⟩ := update_eq_some huse
    · exact transaction_inj heq ▸ hcurrent
    · exact absurd (Option.some.inj hholds).symm ht
  case patient =>
    intro t' σ' huse hwaits
    obtain ⟨_, heq⟩ | ⟨_, hold⟩ := update_eq_some huse
    · exact absurd (transaction_inj heq ▸ hidle) hwaits
    · exact g.patient t' σ' hold hwaits
  case queued =>
    intro t' hmem
    have ht : t' ≠ t := fun ht ↦ hqueue (ht ▸ hmem)
    rw [Function.update_of_ne ht]
    exact g.queued t' hmem
  case owned =>
    intro t' hholds
    obtain rfl : t = t' := Option.some.inj hholds
    simp
  case nodup => exact g.nodup
  case apart =>
    intro t' hholds
    obtain rfl : t = t' := Option.some.inj hholds
    exact hqueue
  case free => exact fun h ↦ absurd h (Option.some_ne_none t)

/-- A ticket that is not in the queue lines up behind another holder. -/
theorem lineUp (g : Guarded l uses Current) {holder : Ticket} (hholder : l.holder = some holder)
    (hother : holder ≠ t) (hidle : ∀ use, uses t = some use → ¬ use.Waiting) {use : Use}
    (hwaiting : use.Waiting) (hdone : ∀ σ, use = .transaction σ → σ.done = []) :
    Guarded (l.request t) (Function.update uses t (some use)) Current := by
  have hqueue : t ∉ l.waiting := g.notMem_waiting hidle
  have hrequest : l.request t = { l with waiting := l.waiting ++ [t] } := by
    simp [Lock.request, hholder]
  rw [hrequest]
  constructor
  case holds =>
    intro t' σ' huse hwritten
    obtain ⟨_, heq⟩ | ⟨_, hold⟩ := update_eq_some huse
    · exact absurd (hdone σ' (Option.some.inj heq)) hwritten
    · exact g.holds t' σ' hold hwritten
  case current =>
    intro t' σ' huse hrest hholds
    obtain ⟨rfl, _⟩ | ⟨_, hold⟩ := update_eq_some huse
    · exact absurd (Option.some.inj (hholder.symm.trans hholds)) hother
    · exact g.current t' σ' hold hrest hholds
  case patient =>
    intro t' σ' huse hwaits
    obtain ⟨_, heq⟩ | ⟨_, hold⟩ := update_eq_some huse
    · exact hdone σ' (Option.some.inj heq)
    · exact g.patient t' σ' hold hwaits
  case queued =>
    intro t' hmem
    by_cases ht : t' = t
    · subst ht
      exact ⟨use, Function.update_self .., hwaiting⟩
    · have hold : t' ∈ l.waiting := by simpa [ht] using hmem
      rw [Function.update_of_ne ht]
      exact g.queued t' hold
  case owned =>
    intro t' hholds
    by_cases ht : t' = t
    · simp [ht]
    · rw [Function.update_of_ne ht]
      exact g.owned t' hholds
  case nodup =>
    rw [List.nodup_append]
    refine ⟨g.nodup, List.nodup_singleton t, ?_⟩
    intro a ha b hb
    rw [List.mem_singleton] at hb
    exact fun hab ↦ hqueue (hb ▸ hab ▸ ha)
  case apart =>
    intro t' hholds hmem
    obtain hold | hnew := List.mem_append.1 hmem
    · exact g.apart t' hholds hold
    · have ht : t' = t := List.mem_singleton.1 hnew
      exact hother (ht ▸ Option.some.inj (hholder.symm.trans hholds))
  case free => exact fun h ↦ absurd (hholder.symm.trans h) (Option.some_ne_none holder)

/-! ## Leaving the lock -/

theorem holder_leave (l : Lock) (t : Ticket) :
    (l.leave t).holder = if l.holder = some t then l.waiting.head? else l.holder := by
  unfold Lock.leave
  split <;> rfl

theorem mem_waiting_of_leave (g : Guarded l uses Current) {t' : Ticket}
    (hmem : t' ∈ (l.leave t).waiting) : t' ∈ l.waiting ∧ t' ≠ t := by
  unfold Lock.leave at hmem
  split at hmem
  case isTrue hholder =>
    have hold : t' ∈ l.waiting := List.mem_of_mem_tail hmem
    exact ⟨hold, fun ht ↦ g.apart t hholder (ht ▸ hold)⟩
  case isFalse =>
    simpa using hmem

/-- Whoever holds the lock after somebody has left it has held it before, or has waited first. -/
theorem holder_of_leave (g : Guarded l uses Current) {t' : Ticket}
    (hholds : (l.leave t).holder = some t') :
    t' ≠ t ∧ (l.holder = some t' ∨ l.holder = some t ∧ t' ∈ l.waiting) := by
  rw [holder_leave] at hholds
  split at hholds
  case isTrue hholder =>
    have hmem : t' ∈ l.waiting := List.mem_of_mem_head? hholds
    exact ⟨fun ht ↦ g.apart t hholder (ht ▸ hmem), .inr ⟨hholder, hmem⟩⟩
  case isFalse hholder =>
    exact ⟨fun ht ↦ hholder (ht ▸ hholds), .inl hholds⟩

/-- A ticket leaves the lock or the queue, and is then out of use or a transaction that has not
written. -/
theorem leave (g : Guarded l uses Current) {use : Option Use}
    (huse : ∀ u, use = some u → ∃ σ, u = .transaction σ ∧ σ.waiting = none ∧ σ.done = [])
    (hcurrent : ∀ t' σ, t' ≠ t → uses t' = some (.transaction σ) → l.holder = some t' →
      Current σ → Current' σ) :
    Guarded (l.leave t) (Function.update uses t use) Current' := by
  have hself {σ : Session} (h : use = some (.transaction σ)) : σ.done = [] := by
    obtain ⟨σ', heq, hσ'⟩ := huse _ h
    exact Use.transaction.inj heq ▸ hσ'.2
  constructor
  case holds =>
    intro t' σ huse' hwritten
    obtain ⟨_, heq⟩ | ⟨ht, hold⟩ := update_eq_some huse'
    · exact absurd (hself heq) hwritten
    · have hholder := g.holds t' σ hold hwritten
      rw [holder_leave, if_neg]
      · exact hholder
      · exact fun h ↦ ht (Option.some.inj (hholder.symm.trans h))
  case current =>
    intro t' σ huse' hidle hholds
    obtain ⟨ht, hcases⟩ := g.holder_of_leave hholds
    rw [Function.update_of_ne ht] at huse'
    obtain hholder | ⟨_, hmem⟩ := hcases
    · exact hcurrent t' σ ht huse' hholder (g.current t' σ huse' hidle hholder)
    · -- The lock has been handed to a waiting ticket, which is not idle.
      obtain ⟨use', heq, hwaiting⟩ := g.queued t' hmem
      obtain rfl : use' = .transaction σ := Option.some.inj (heq.symm.trans huse')
      exact absurd hidle hwaiting
  case patient =>
    intro t' σ huse' hwaits
    obtain ⟨_, heq⟩ | ⟨_, hold⟩ := update_eq_some huse'
    · exact hself heq
    · exact g.patient t' σ hold hwaits
  case queued =>
    intro t' hmem
    obtain ⟨hold, ht⟩ := g.mem_waiting_of_leave hmem
    rw [Function.update_of_ne ht]
    exact g.queued t' hold
  case owned =>
    intro t' hholds
    obtain ⟨ht, hcases⟩ := g.holder_of_leave hholds
    rw [Function.update_of_ne ht]
    obtain hholder | ⟨_, hmem⟩ := hcases
    · exact g.owned t' hholder
    · obtain ⟨use', heq, _⟩ := g.queued t' hmem
      rw [heq]
      exact Option.some_ne_none use'
  case nodup =>
    unfold Lock.leave
    split
    · exact g.nodup.sublist (List.tail_sublist _)
    · exact g.nodup.filter _
  case apart =>
    intro t' hholds hmem
    obtain ⟨hold, ht⟩ := g.mem_waiting_of_leave hmem
    obtain ⟨_, hholder | ⟨hholder, _⟩⟩ := g.holder_of_leave hholds
    · exact g.apart t' hholder hold
    · rw [holder_leave, if_pos hholder] at hholds
      simp only [Lock.leave, if_pos hholder] at hmem
      have hnodup := g.nodup
      rw [← List.cons_head?_tail hholds, List.nodup_cons] at hnodup
      exact hnodup.1 hmem
  case free =>
    intro hnone
    rw [holder_leave] at hnone
    split at hnone
    case isTrue hholder =>
      simp only [Lock.leave, if_pos hholder]
      rw [List.head?_eq_none_iff] at hnone
      rw [hnone, List.tail_nil]
    case isFalse hholder =>
      simp only [Lock.leave, if_neg hholder]
      rw [g.free hnone, List.filter_nil]

end Guarded

end Turnstile.Store
