import Mathlib.Data.List.Perm.Basic
import Turnstile.Proofs.Tasks.Turn

/-!
# Pools explained

Every pool that can be reached has an explanation: a history of its store, the standing of each task
that runs, and what each task that has ended has done.  The tickets that the tasks hold are all
different, so a turn of one task leaves the standings of the others true.

Where no task can be dropped after a commit, the commits are those of the tasks that have ended, in
the order in which they have ended, and a task sees at least the commits of those that had ended when
it began.
-/

namespace Turnstile

open Store (History Session Ticket Use)

variable {h h' h₀ : History} {s s' : Standing}

/-! ## Turns that change something -/

/-- How many turns have changed the committed rows. -/
def rowTurns (turns : List (Service × Service)) : Nat :=
  turns.countP fun turn ↦ turn.1.store.rows ≠ turn.2.store.rows

/-- How many turns have changed the cluster. -/
def clusterTurns (turns : List (Service × Service)) : Nat :=
  turns.countP fun turn ↦ turn.1.cluster ≠ turn.2.cluster

theorem rowTurns_concat (turns : List (Service × Service)) (turn : Service × Service) :
    rowTurns (turns ++ [turn]) =
      rowTurns turns + if turn.1.store.rows = turn.2.store.rows then 0 else 1 := by
  unfold rowTurns
  rw [List.countP_append, List.countP_singleton]
  by_cases heq : turn.1.store.rows = turn.2.store.rows <;> simp [heq]

theorem clusterTurns_concat (turns : List (Service × Service)) (turn : Service × Service) :
    clusterTurns (turns ++ [turn]) =
      clusterTurns turns + if turn.1.cluster = turn.2.cluster then 0 else 1 := by
  unfold clusterTurns
  rw [List.countP_append, List.countP_singleton]
  by_cases heq : turn.1.cluster = turn.2.cluster <;> simp [heq]

/-- The changes made by the turns of a task are among its deeds. -/
structure Accounts (turns : List (Service × Service)) (d : Deeds) : Prop where
  rows : rowTurns turns ≤ Store.writes d.committed
  cluster : clusterTurns turns ≤ d.changes

theorem Accounts.start (earliest : Nat) : Accounts [] (.start earliest) :=
  ⟨Nat.le_refl _, Nat.le_refl _⟩

theorem Accounts.turn {turns : List (Service × Service)} {service service' : Service}
    (ha : Accounts turns s.deeds) (hstore : h.store = service.store)
    (hturn : Turn service service' h h' s s') :
    Accounts (turns ++ [(service, service')]) s'.deeds where
  rows := by
    obtain ⟨new, _, hcommitted, _, hrows⟩ := hturn.leads.deeds
    rw [hstore, hturn.store] at hrows
    rw [rowTurns_concat, hcommitted, Store.writes_append]
    apply Nat.add_le_add ha.rows
    by_cases hsame : service.store.rows = service'.store.rows
    · rw [if_pos hsame]
      omega
    · rw [if_neg hsame]
      exact hrows (Ne.symm hsame)
  cluster := by
    rw [clusterTurns_concat]
    by_cases hsame : service.cluster = service'.cluster
    · rw [if_pos hsame]
      exact Nat.le_trans ha.cluster hturn.changes
    · rw [if_neg hsame]
      exact Nat.lt_of_le_of_lt ha.cluster (hturn.cluster (Ne.symm hsame))

/-! ## Standings side by side -/

/-- The tasks hold what they think they hold, and different tickets. -/
structure Shares (h : History) (standings : List Standing) : Prop where
  fits : ∀ s ∈ standings, s.Fits h
  apart : (standings.filterMap Standing.ticket?).Nodup

namespace Shares

variable {standings before after : List Standing}

theorem nil : Shares h [] := ⟨by simp, List.nodup_nil⟩

theorem perm (hshares : Shares h standings) {standings' : List Standing}
    (hperm : standings.Perm standings') : Shares h standings' where
  fits s hs := hshares.fits s (hperm.mem_iff.2 hs)
  apart := (hperm.filterMap _).nodup_iff.1 hshares.apart

theorem tail (hshares : Shares h (s :: standings)) : Shares h standings where
  fits s' hs' := hshares.fits s' (List.mem_cons_of_mem s hs')
  apart := hshares.apart.sublist ((List.sublist_cons_self s standings).filterMap _)

theorem notMem (hshares : Shares h (s :: standings)) {t : Ticket} (ht : s.ticket? = some t) :
    t ∉ standings.filterMap Standing.ticket? := by
  have hapart := hshares.apart
  rw [List.filterMap_cons_some ht, List.nodup_cons] at hapart
  exact hapart.1

/-- A task joins that holds a ticket which no other holds. -/
theorem cons (hshares : Shares h standings) (hfits : s.Fits h)
    (hnew : ∀ t, s.ticket? = some t → t ∉ standings.filterMap Standing.ticket?) :
    Shares h (s :: standings) where
  fits s' hs' := by
    obtain rfl | hold := List.mem_cons.1 hs'
    · exact hfits
    · exact hshares.fits s' hold
  apart := by
    cases ht : s.ticket? with
    | none =>
      rw [List.filterMap_cons_none ht]
      exact hshares.apart
    | some t =>
      rw [List.filterMap_cons_some ht, List.nodup_cons]
      exact ⟨hnew t ht, hshares.apart⟩

/-- A turn of one task leaves the standings of the others true. -/
theorem turn (hshares : Shares h (s :: standings)) (hleads : s.Leads h h' s') :
    Shares h' (s' :: standings) := by
  obtain ⟨new, hcommits, _⟩ := hleads.deeds
  have hlength : h.commits.length ≤ h'.commits.length := by
    rw [hcommits, List.length_append]
    omega
  have hticket {x : Standing} (hx : x ∈ standings) {t : Ticket} {u : Use}
      (huse : x.use = some (t, u)) : t ∈ standings.filterMap Standing.ticket? := by
    refine List.mem_filterMap.2 ⟨x, hx, ?_⟩
    rw [Standing.ticket?, huse]
    rfl
  refine cons ⟨?_, ?_⟩ hleads.fits ?_
  · intro x hx
    have hfits := hshares.tail.fits x hx
    constructor
    · intro t u huse
      apply hleads.others t u (hfits.use t u huse)
      exact fun hself ↦ hshares.notMem hself (hticket hx huse)
    · have hearliest := hfits.earliest
      omega
  · exact hshares.tail.apart
  · intro t ht hmem
    obtain hself | hnone := hleads.fresh t ht
    · exact hshares.notMem hself hmem
    · obtain ⟨x, hx, hxt⟩ := List.mem_filterMap.1 hmem
      obtain ⟨⟨t', u⟩, huse, rfl⟩ := Option.map_eq_some_iff.1 hxt
      have hused := (hshares.tail.fits x hx).use t' u huse
      exact absurd (hused.symm.trans hnone) (Option.some_ne_none u)

end Shares

/-! ## Explanations -/

variable {W : Workload} {C : Contract W}

/-- A task that runs keeps to its contract so far. -/
structure Ongoing (C : Contract W) (task : Task W) (s : Standing) : Prop where
  meets : task.rest.Meets (C.During task.request) (C.After task.request) s
  during : C.During task.request s.deeds
  accounts : Accounts task.turns s.deeds

/-- A task that has ended has kept to its contract. -/
structure Over (C : Contract W) (o : Outcome W) (d : Deeds) : Prop where
  kept : C.Kept o d
  accounts : Accounts o.turns d

/-- The transactions committed by tasks that have ended. -/
def commitsOf (ended : List (Outcome W × Deeds)) : List Session :=
  ended.flatMap fun x ↦ x.2.committed

theorem commitsOf_append (first last : List (Outcome W × Deeds)) :
    commitsOf (first ++ last) = commitsOf first ++ commitsOf last :=
  List.flatMap_append

theorem commitsOf_concat (ended : List (Outcome W × Deeds)) (x : Outcome W × Deeds) :
    commitsOf (ended ++ [x]) = commitsOf ended ++ x.2.committed := by
  rw [commitsOf_append]
  exact congrArg (commitsOf ended ++ ·) (List.append_nil x.2.committed)

theorem commitsOf_cons (x : Outcome W × Deeds) (last : List (Outcome W × Deeds)) :
    commitsOf (x :: last) = x.2.committed ++ commitsOf last :=
  List.flatMap_cons

/-- A task began after all that the tasks which had ended by then have committed. -/
def Late (h₀ : History) (ended : List (Outcome W × Deeds)) (since : Nat) (d : Deeds) : Prop :=
  since ≤ ended.length ∧ (h₀.commits ++ commitsOf (ended.take since)).length ≤ d.earliest

/-- What has happened in a pool since it shared a store with the history `h₀`. -/
structure Explained (C : Contract W) (h₀ h : History) (p : Pool W)
    (running : List (Task W × Standing)) (ended : List (Outcome W × Deeds)) : Prop where
  consistent : h.Consistent
  store : h.store = p.service.store
  tasks : p.running = running.map Prod.fst
  outcomes : p.ended = ended.map Prod.fst
  shares : Shares h (running.map Prod.snd)
  ongoing : ∀ x ∈ running, Ongoing C x.1 x.2
  finished : ∀ x ∈ ended, Over C x.1 x.2
  commits : C.Quiet → h.commits = h₀.commits ++ commitsOf ended
  lateRunning : C.Quiet → ∀ x ∈ running, Late h₀ ended x.1.since x.2.deeds
  lateEnded : C.Quiet → ∀ x ∈ ended, Late h₀ ended x.1.since x.2

theorem Late.append {ended more : List (Outcome W × Deeds)} {since : Nat} {d : Deeds}
    (hlate : Late h₀ ended since d) : Late h₀ (ended ++ more) since d := by
  obtain ⟨hsince, hearliest⟩ := hlate
  refine ⟨?_, ?_⟩
  · rw [List.length_append]
    omega
  · rw [List.take_append_of_le_length hsince]
    exact hearliest

/-- A task that began after another had ended, having committed, began after its commit. -/
theorem Late.length_lt {first last : List (Outcome W × Deeds)} {x : Outcome W × Deeds} {since : Nat}
    {d : Deeds} (hlate : Late h₀ (first ++ x :: last) since d) (hsince : first.length < since)
    (hx : x.2.committed ≠ []) : (h₀.commits ++ commitsOf first).length < d.earliest := by
  obtain ⟨k, rfl⟩ : ∃ k, since = first.length + (k + 1) := ⟨since - first.length - 1, by omega⟩
  have hpositive : 0 < x.2.committed.length := List.length_pos_iff.2 hx
  have hearliest := hlate.2
  rw [List.take_length_add_append, List.take_succ_cons, commitsOf_append, commitsOf_cons] at hearliest
  simp only [List.length_append] at hearliest ⊢
  omega

namespace Explained

variable {p : Pool W} {running before after : List (Task W × Standing)}
  {ended : List (Outcome W × Deeds)} {service' : Service}

theorem start (c : h.Consistent) {s : Service} (hstore : h.store = s.store) :
    Explained C h h (.idle s) [] [] where
  consistent := c
  store := hstore
  tasks := rfl
  outcomes := rfl
  shares := .nil
  ongoing := by simp
  finished := by simp
  commits _ := (List.append_nil _).symm
  lateRunning := by simp
  lateEnded := by simp

/-- The pool without one of its tasks, whose turn it is. -/
theorem remove {x : Task W × Standing} (he : Explained C h₀ h p (before ++ x :: after) ended) :
    Explained C h₀ h { p with running := (before ++ after).map Prod.fst } (before ++ after) ended ∧
      Shares h (x.2 :: (before ++ after).map Prod.snd) := by
  have hshares : Shares h (x.2 :: (before ++ after).map Prod.snd) := by
    have hperm : (before ++ x :: after).Perm (x :: (before ++ after)) := List.perm_middle
    exact he.shares.perm (hperm.map Prod.snd)
  have hmem {y : Task W × Standing} (hy : y ∈ before ++ after) : y ∈ before ++ x :: after := by
    rw [List.mem_append] at hy ⊢
    exact hy.imp_right (List.mem_cons_of_mem x)
  refine ⟨?_, hshares⟩
  exact
    { consistent := he.consistent
      store := he.store
      tasks := rfl
      outcomes := he.outcomes
      shares := hshares.tail
      ongoing := fun y hy ↦ he.ongoing y (hmem hy)
      finished := he.finished
      commits := he.commits
      lateRunning := fun hquiet y hy ↦ he.lateRunning hquiet y (hmem hy)
      lateEnded := he.lateEnded }

/-- A task ends with its turn. -/
theorem finish (he : Explained C h₀ h p running ended)
    (hshares : Shares h (s :: running.map Prod.snd))
    (hturn : Turn p.service service' h h' s s') (hquiet : C.Quiet → s.deeds.committed = [])
    {o : Outcome W} (hlate : C.Quiet → Late h₀ ended o.since s.deeds)
    (hover : Over C o s'.deeds) :
    Explained C h₀ h' ⟨service', p.running, p.ended ++ [o]⟩ running (ended ++ [(o, s'.deeds)]) := by
  obtain ⟨new, hcommits, hcommitted, hearliest, _⟩ := hturn.leads.deeds
  constructor
  case consistent => exact hturn.consistent
  case store => exact hturn.store
  case tasks => exact he.tasks
  case outcomes =>
    rw [List.map_append, ← he.outcomes]
    rfl
  case shares => exact (hshares.turn hturn.leads).tail
  case ongoing => exact he.ongoing
  case finished =>
    intro x hx
    obtain hold | hnew := List.mem_append.1 hx
    · exact he.finished x hold
    · rw [List.mem_singleton.1 hnew]
      exact hover
  case commits =>
    intro hq
    rw [hquiet hq, List.nil_append] at hcommitted
    have hall : commitsOf (ended ++ [(o, s'.deeds)]) = commitsOf ended ++ new := by
      rw [← hcommitted, commitsOf_concat]
    rw [hcommits, he.commits hq, hall, List.append_assoc]
  case lateRunning => exact fun hq x hx ↦ (he.lateRunning hq x hx).append
  case lateEnded =>
    intro hq x hx
    obtain hold | hnew := List.mem_append.1 hx
    · exact (he.lateEnded hq x hold).append
    · rw [List.mem_singleton.1 hnew]
      have hself : Late h₀ (ended ++ [(o, s'.deeds)]) o.since s.deeds := (hlate hq).append
      rwa [Late, ← hearliest] at hself

/-- A task goes on after its turn. -/
theorem goOn (he : Explained C h₀ h p (before ++ after) ended)
    (hshares : Shares h (s :: (before ++ after).map Prod.snd))
    (hturn : Turn p.service service' h h' s s') (hquiet : C.Quiet → s.deeds.committed = [])
    {task : Task W} (hlate : C.Quiet → Late h₀ ended task.since s.deeds)
    (hongoing : Ongoing C task s') :
    Explained C h₀ h'
      { p with service := service', running := before.map Prod.fst ++ task :: after.map Prod.fst }
      (before ++ (task, s') :: after) ended := by
  obtain ⟨new, hcommits, hcommitted, hearliest, _⟩ := hturn.leads.deeds
  have hmem {x : Task W × Standing} (hx : x ∈ before ++ (task, s') :: after) :
      x ∈ before ++ after ∨ x = (task, s') := by
    have hperm := List.perm_middle.mem_iff.1 hx
    exact (List.mem_cons.1 hperm).symm
  constructor
  case consistent => exact hturn.consistent
  case store => exact hturn.store
  case tasks =>
    rw [List.map_append]
    rfl
  case outcomes => exact he.outcomes
  case shares =>
    have hperm : (before ++ (task, s') :: after).Perm ((task, s') :: (before ++ after)) :=
      List.perm_middle
    exact (hshares.turn hturn.leads).perm (hperm.map Prod.snd).symm
  case ongoing =>
    intro x hx
    obtain hold | rfl := hmem hx
    · exact he.ongoing x hold
    · exact hongoing
  case finished => exact he.finished
  case commits =>
    intro hq
    have hnone : s'.deeds.committed = [] := hq _ _ hongoing.during
    rw [hquiet hq, List.nil_append] at hcommitted
    rw [hcommits, ← hcommitted, hnone, List.append_nil]
    exact he.commits hq
  case lateRunning =>
    intro hq x hx
    obtain hold | rfl := hmem hx
    · exact he.lateRunning hq x hold
    · have hself := hlate hq
      rwa [Late, ← hearliest] at hself
  case lateEnded => exact he.lateEnded

/-- A task that has had its turn goes on or ends. -/
theorem put (he : Explained C h₀ h p (before ++ after) ended)
    (hshares : Shares h (s :: (before ++ after).map Prod.snd))
    (hturn : Turn p.service service' h h' s s') (hquiet : C.Quiet → s.deeds.committed = [])
    (task : Task W) (hlate : C.Quiet → Late h₀ ended task.since s.deeds)
    (hmeets : task.rest.Meets (C.During task.request) (C.After task.request) s')
    (haccounts : Accounts task.turns s'.deeds) (elapsed : Duration) :
    ∃ running' ended', Explained C h₀ h'
      (p.put service' (before.map Prod.fst) (after.map Prod.fst) elapsed task) running' ended' := by
  obtain ⟨result, hproceed, _, hafter⟩ | ⟨rest, hproceed, hrest, hduring⟩ := hmeets.proceed elapsed
  · let o : Outcome W := ⟨task.request, task.since, task.turns, some result⟩
    have hover : Over C o s'.deeds := ⟨hafter, haccounts⟩
    have hfinish := he.finish hshares hturn hquiet hlate hover
    rw [he.tasks, List.map_append] at hfinish
    refine ⟨before ++ after, ended ++ [(o, s'.deeds)], ?_⟩
    unfold Pool.put
    rw [hproceed]
    exact hfinish
  · have hongoing : Ongoing C { task with rest } s' := ⟨hrest, hduring, haccounts⟩
    refine ⟨before ++ ({ task with rest }, s') :: after, ended, ?_⟩
    unfold Pool.put
    rw [hproceed]
    exact he.goOn hshares hturn hquiet hlate hongoing

/-- The tasks before and after one of those that run. -/
theorem split (he : Explained C h₀ h p running ended) {tasks tasks' : List (Task W)} {task : Task W}
    (hrunning : p.running = tasks ++ task :: tasks') :
    ∃ before after s, running = before ++ (task, s) :: after ∧ before.map Prod.fst = tasks ∧
      after.map Prod.fst = tasks' := by
  rw [he.tasks] at hrunning
  obtain ⟨before, rest, rfl, hbefore, hrest⟩ := List.map_eq_append_iff.1 hrunning
  obtain ⟨⟨task, s⟩, after, rfl, rfl, hafter⟩ := List.map_eq_cons_iff.1 hrest
  exact ⟨before, after, s, rfl, hbefore, hafter⟩

theorem step (hhonored : C.Honored) (he : Explained C h₀ h p running ended) {p' : Pool W}
    (hstep : Pool.Step p p') :
    ∃ h' running' ended', Explained C h₀ h' p' running' ended' := by
  cases hstep with
  | start r elapsed =>
    let s : Standing := ⟨.start h.commits.length, none⟩
    have hfits : s.Fits h := ⟨fun t u huse ↦ absurd huse.symm (Option.some_ne_none _), Nat.le_refl _⟩
    have hshares : Shares h (s :: (running ++ []).map Prod.snd) := by
      rw [List.append_nil]
      exact he.shares.cons hfits (fun t ht ↦ absurd ht.symm (Option.some_ne_none t))
    have hlate (hq : C.Quiet) : Late h₀ ended p.ended.length s.deeds := by
      rw [he.outcomes, List.length_map]
      refine ⟨Nat.le_refl _, ?_⟩
      rw [List.take_length, ← he.commits hq]
      exact Nat.le_refl _
    let task : Task W := ⟨r, p.ended.length, [], W.serve r⟩
    have hmeets : task.rest.Meets (C.During r) (C.After r) s := hhonored r h.commits.length
    have hturn : Turn p.service p.service h h s s := .refl he.consistent he.store hfits
    have htasks := he.tasks
    rw [← List.append_nil running] at he
    obtain ⟨running', ended', hput⟩ := he.put hshares hturn (fun _ ↦ rfl) task hlate hmeets
      (Accounts.start _) elapsed
    rw [← htasks] at hput
    exact ⟨h, running', ended', hput⟩
  | @advance tasks tasks' task elapsed rest service' hrunning hadvances =>
    obtain ⟨before, after, s, rfl, rfl, rfl⟩ := he.split hrunning
    have hongoing : Ongoing C task s := he.ongoing (task, s) (by simp)
    obtain ⟨hothers, hshares⟩ := he.remove
    have hfits : s.Fits h := hshares.fits s List.mem_cons_self
    obtain ⟨h', s', hturn, hrest⟩ :=
      hongoing.meets.turn he.consistent he.store hfits hadvances
    have haccounts := hongoing.accounts.turn he.store hturn
    have hlate (hq : C.Quiet) : Late h₀ ended task.since s.deeds :=
      he.lateRunning hq (task, s) (by simp)
    have hquiet (hq : C.Quiet) : s.deeds.committed = [] := hq _ _ hongoing.during
    let task' : Task W := ⟨task.request, task.since, task.turns ++ [(p.service, service')], rest⟩
    obtain ⟨running', ended', hput⟩ :=
      hothers.put hshares hturn hquiet task' hlate hrest haccounts elapsed
    exact ⟨h', running', ended', hput⟩
  | @drop tasks tasks' task hrunning =>
    obtain ⟨before, after, s, rfl, rfl, rfl⟩ := he.split hrunning
    have hongoing : Ongoing C task s := he.ongoing (task, s) (by simp)
    obtain ⟨hothers, hshares⟩ := he.remove
    have hfits : s.Fits h := hshares.fits s List.mem_cons_self
    obtain ⟨h', hturn⟩ := Turn.of_release he.consistent he.store hfits
    rw [← hongoing.meets.ticket?] at hturn
    have haccounts := hongoing.accounts.turn he.store hturn
    have hlate (hq : C.Quiet) : Late h₀ ended task.since s.deeds :=
      he.lateRunning hq (task, s) (by simp)
    have hquiet (hq : C.Quiet) : s.deeds.committed = [] := hq _ _ hongoing.during
    let service' : Service := p.service.release task.rest.ticket?
    let o : Outcome W := ⟨task.request, task.since, task.turns ++ [(p.service, service')], none⟩
    have hover : Over C o s.deeds := ⟨hongoing.during, haccounts⟩
    have hfinish := hothers.finish hshares hturn hquiet hlate hover
    rw [List.map_append] at hfinish
    exact ⟨h', before ++ after, ended ++ [(o, s.deeds)], hfinish⟩

end Explained

/-- Every pool that can be reached from a store with a history has an explanation. -/
theorem Pool.Reachable.explained (hhonored : C.Honored) (c : h₀.Consistent) {service : Service}
    (hstore : h₀.store = service.store) {p : Pool W} (hreach : Reachable service p) :
    ∃ h running ended, Explained C h₀ h p running ended := by
  induction hreach with
  | start => exact ⟨h₀, [], [], .start c hstore⟩
  | step _ hstep ih =>
    obtain ⟨h, running, ended, he⟩ := ih
    exact he.step hhonored hstep

end Turnstile
