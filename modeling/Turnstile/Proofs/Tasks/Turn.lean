import Turnstile.Proofs.Tasks.Soundness

/-!
# One turn of a task

A turn of a task that keeps to the protocol is a move of the store's history, or none at all.  It
changes the cluster only by a call that is counted as a change.
-/

namespace Turnstile

open Store (History)

/-- A turn of a task takes a service and its history to the next, and the task from one standing to
another. -/
structure Turn (service service' : Service) (h h' : History) (s s' : Standing) : Prop where
  consistent : h'.Consistent
  store : h'.store = service'.store
  leads : s.Leads h h' s'
  changes : s.deeds.changes ≤ s'.deeds.changes
  cluster : service'.cluster ≠ service.cluster → s.deeds.changes < s'.deeds.changes

theorem Cluster.answer_of_not_changes {c : Cluster.interface.Call} {cluster : Cluster}
    (hsame : Cluster.changes c (Cluster.answer c cluster).1 = false) :
    (Cluster.answer c cluster).2 = cluster := by
  cases c with
  | leaderId | leader | members | isEmpty => rfl
  | add | setLeader | adjustRoles | transferLeadership =>
    exact absurd hsame.symm Bool.false_ne_true
  | setRole id role =>
    simp only [Cluster.answer, Cluster.setRole] at hsame ⊢
    cases hmember : cluster.member? id with
    | none => rfl
    | some m =>
      rw [hmember] at hsame
      exact absurd hsame.symm Bool.false_ne_true
  | remove id =>
    simp only [Cluster.answer, Cluster.remove] at hsame ⊢
    cases hmember : cluster.member? id with
    | none => rfl
    | some m =>
      rw [hmember] at hsame
      exact absurd hsame.symm Bool.false_ne_true

variable {service service' : Service} {h h' : History} {s s' : Standing}

namespace Turn

/-- A turn that makes no call. -/
theorem refl (c : h.Consistent) (hstore : h.store = service.store) (hfits : s.Fits h) :
    Turn service service h h s s where
  consistent := c
  store := hstore
  leads := .refl hfits rfl rfl rfl
  changes := Nat.le_refl _
  cluster hne := absurd rfl hne

/-- Every call that the protocol permits is such a turn. -/
theorem of_permits (c : h.Consistent) (hstore : h.store = service.store) (hfits : s.Fits h)
    {call : Service.interface.Call} (hpermits : Service.Permits s call) :
    ∃ h' s', Service.Follows s call (Service.answer call service).1 s' ∧
      Turn service (Service.answer call service).2 h h' s s' := by
  cases call with
  | store call =>
    obtain ⟨hallows, s', hfollows, hleads⟩ := Standing.leads_call c hfits hpermits
    rw [hstore] at hfollows
    have hchanges : s'.deeds.changes = s.deeds.changes := hfollows.changes
    refine ⟨h.call call, s', hfollows, ?_⟩
    exact
      { consistent := c.call hallows
        store := congrArg (fun store ↦ (Store.answer call store).2) hstore
        leads := hleads
        changes := Nat.le_of_eq hchanges.symm
        cluster := fun hne ↦ absurd rfl hne }
  | cluster call =>
    refine ⟨h, _, rfl, ?_⟩
    exact
      { consistent := c
        store := hstore
        leads := .keep hfits rfl rfl rfl rfl rfl rfl
        changes := Nat.le_add_right _ _
        cluster := by
          intro hne
          cases hchanges : Cluster.changes call (Cluster.answer call service.cluster).1 with
          | false => exact absurd (Cluster.answer_of_not_changes hchanges) hne
          | true =>
            simp only [Service.answer, Deeds.change, hchanges]
            exact Nat.lt_succ_self _ }
  | record | increment | metrics | uptime | pause =>
    refine ⟨h, s, rfl, ?_⟩
    exact
      { consistent := c
        store := hstore
        leads := .refl hfits rfl rfl rfl
        changes := Nat.le_refl _
        cluster := fun hne ↦ absurd rfl hne }

/-- A task that is dropped gives up what it holds. -/
theorem of_release (c : h.Consistent) (hstore : h.store = service.store) (hfits : s.Fits h) :
    ∃ h', Turn service (service.release s.ticket?) h h' s ⟨s.deeds, none⟩ := by
  obtain ⟨d, use⟩ := s
  cases use with
  | none => exact ⟨h, .refl c hstore hfits⟩
  | some use =>
    obtain ⟨t, u⟩ := use
    have hused : h.uses t ≠ none := by
      rw [hfits.use t u rfl]
      exact Option.some_ne_none u
    refine ⟨h.drop t, ?_⟩
    exact
      { consistent := c.finish hused
        store := congrArg (fun store : Store ↦ store.endTransaction t) hstore
        leads := Standing.leads_drop hfits
        changes := Nat.le_refl _
        cluster := fun hne ↦ absurd rfl hne }

end Turn

/-- The ticket of a call is the one that the task holds. -/
theorem Service.ticket?_of_permits {call : Service.interface.Call}
    (hpermits : Service.Permits s call) : Service.Call.ticket? call = s.ticket? := by
  obtain ⟨d, use⟩ := s
  cases call with
  | store call =>
    cases call with
    | begin | createSchema | close =>
      obtain rfl : use = none := hpermits
      rfl
    | exec | resume | query | commit | rollback =>
      obtain ⟨σ, rfl, _⟩ := hpermits
      rfl
    | resumeSchema t =>
      obtain rfl : use = some (t, .creation) := hpermits
      rfl
  | cluster | record | increment | metrics | uptime | pause =>
    obtain rfl : use = none := hpermits
    rfl

namespace Activity

variable {R : Type} {During : Deeds → Prop} {After : R → Deeds → Prop}
  {a rest : Activity Service.interface R} {elapsed : Duration}

theorem Meets.ticket? (ha : a.Meets During After s) : a.ticket? = s.ticket? := by
  have hnone (huse : s.use = none) : none = s.ticket? := by
    rw [Standing.ticket?, huse]
    rfl
  cases a with
  | run p =>
    cases p with
    | done r => exact hnone ha.1
    | call c next => exact Service.ticket?_of_permits ha.2.1
  | limited limit work finish =>
    cases work with
    | done a => exact hnone ha.1
    | call c next => exact Service.ticket?_of_permits ha.2.1
  | after pause next => exact hnone ha.2.1

/-- A turn of an activity that keeps to the protocol. -/
theorem Meets.turn (ha : a.Meets During After s) (c : h.Consistent)
    (hstore : h.store = service.store) (hfits : s.Fits h)
    (hadvances : a.Advances service elapsed rest service') :
    ∃ h' s', Turn service service' h h' s s' ∧ rest.Meets During After s' := by
  cases hadvances with
  | call call next =>
    obtain ⟨_, hpermits, hnext⟩ := ha
    obtain ⟨h', s', hfollows, hturn⟩ := Turn.of_permits c hstore hfits hpermits
    exact ⟨h', s', hturn, hnext _ s' hfollows⟩
  | work limit call next finish =>
    obtain ⟨_, hpermits, hnext⟩ := ha
    obtain ⟨h', s', hfollows, hturn⟩ := Turn.of_permits c hstore hfits hpermits
    exact ⟨h', s', hturn, hnext _ s' hfollows⟩
  | expire limit call next finish =>
    obtain ⟨⟨_, hcut⟩, hpermits, _⟩ := ha
    obtain ⟨h', hturn⟩ := Turn.of_release c hstore hfits
    rw [Service.ticket?_of_permits hpermits]
    exact ⟨h', _, hturn, hcut elapsed⟩
  | wake pause next => exact ⟨h, s, .refl c hstore hfits, ha.2.2⟩

end Activity

end Turnstile
