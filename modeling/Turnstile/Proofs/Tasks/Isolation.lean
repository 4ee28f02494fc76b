import Turnstile.Proofs.Store.Statement
import Turnstile.Proofs.Tasks.Course

/-!
# What tasks leave alone

A turn of a task that keeps to its contract leaves the transactions of the others as they are, so a
task finds its own transaction as it left it.  And it takes no committed row away: statements add rows
and change values, and a commit replaces the rows by what its statements have made of them.
-/

namespace Turnstile

open Store (History Row Statement Ticket Use)

/-! ## Rows stay -/

namespace Store

theorem length_of_adjustOnto {key : Int64} {delta : Int} {adjusted rows after : List Row}
    (hadjust : adjustOnto key delta adjusted rows = some after) :
    after.length = adjusted.length + rows.length := by
  obtain ⟨tail, rfl, hmoves⟩ := adjustOnto_rows hadjust
  rw [List.length_append, List.length_reverse, hmoves.length_eq]

theorem length_of_update {key amount : Value} {sign : Int} {rows after : List Row} {n : Nat}
    (hupdate : update key amount sign rows = .ok (after, n)) : after.length = rows.length := by
  unfold update at hupdate
  split at hupdate
  case h_1 => cases hupdate
  case h_2 column _ =>
    split at hupdate
    case h_1 => cases hupdate
    case h_2 amount _ =>
      cases column with
      | none =>
        obtain ⟨rfl, _⟩ := Prod.mk.inj (Except.ok.inj hupdate)
        rfl
      | some key =>
        simp only [adjustRows] at hupdate
        split at hupdate
        case h_1 => cases hupdate
        case h_2 delta _ =>
          split at hupdate
          case h_1 adjusted hadjust =>
            obtain ⟨rfl, _⟩ := Prod.mk.inj (Except.ok.inj hupdate)
            rw [length_of_adjustOnto hadjust, List.length_nil, Nat.zero_add]
          case h_2 => cases hupdate

/-- A statement takes no row away. -/
theorem length_le_of_apply {stmt : Statement} {rows after : List Row} {n : Nat}
    (happly : stmt.apply rows = .ok (after, n)) : rows.length ≤ after.length := by
  cases stmt with
  | insert key value =>
    obtain ⟨row, _, rfl⟩ := apply_of_inserts rfl happly
    rw [List.length_append]
    omega
  | debit key amount => exact Nat.le_of_eq (length_of_update happly).symm
  | credit key amount => exact Nat.le_of_eq (length_of_update happly).symm

theorem length_le_of_replay {stmts : List Statement} {rows after : List Row}
    (hreplay : replay stmts rows = some after) : rows.length ≤ after.length := by
  induction stmts generalizing rows with
  | nil =>
    obtain rfl : rows = after := Option.some.inj hreplay
    exact Nat.le_refl _
  | cons stmt rest ih =>
    unfold replay at hreplay
    split at hreplay
    case h_1 middle n happly => exact Nat.le_trans (length_le_of_apply happly) (ih hreplay)
    case h_2 => cases hreplay

end Store

/-! ## One turn -/

namespace Turn

variable {service service' : Service} {h h' : History} {s s' : Standing} {t : Ticket} {u : Use}

theorem rows_length_le (hturn : Turn service service' h h' s s') (c : h.Consistent)
    (hstore : h.store = service.store) :
    service.store.rows.length ≤ service'.store.rows.length := by
  obtain ⟨new, hcommits, _⟩ := hturn.leads.deeds
  have hrows := hturn.consistent.recorded.rows
  rw [hcommits, Store.statements_append, Store.replay_append_eq_some c.recorded.rows] at hrows
  rw [← hstore, ← hturn.store]
  exact Store.length_le_of_replay hrows

/-- A ticket that is not the task's own is used for the same transaction afterwards. -/
theorem transaction? (hturn : Turn service service' h h' s s') (c : h.Consistent)
    (hstore : h.store = service.store) (huse : h.uses t = some u) (hother : s.ticket? ≠ some t) :
    service'.store.transaction? t = service.store.transaction? t := by
  obtain ⟨new, hcommits, _⟩ := hturn.leads.deeds
  have huse' : h'.uses t = some u := hturn.leads.others t u huse hother
  rw [← hstore, ← hturn.store, hturn.consistent.tracked.transactions, c.tracked.transactions, huse,
    huse', hcommits]
  cases u with
  | creation => rfl
  | transaction σ =>
    exact congrArg some ((c.tracked.fits t σ huse).based.transaction_append new)

end Turn

/-! ## Runs -/

section Runs

variable {W : Workload} {C : Contract W} {h₀ h : History} {p p' : Pool W}
  {running : List (Task W × Standing)} {ended : List (Outcome W × Deeds)} {service : Service}

/-- A task that runs after a step has made it, or holds nothing, or ran before it and holds a ticket
that was not used for it. -/
def Spared (h : History) (s : Standing) (p p' : Pool W) (task : Task W) : Prop :=
  task.turns.getLast? = some (p.service, p'.service) ∨ task.rest.ticket? = none ∨
    task ∈ p.running ∧
      ∀ t, task.rest.ticket? = some t → s.ticket? ≠ some t ∧ ∃ u, h.uses t = some u

theorem Explained.uses (he : Explained C h₀ h p running ended) {task : Task W}
    (htask : task ∈ p.running) {t : Ticket} (ht : task.rest.ticket? = some t) :
    ∃ u, h.uses t = some u := by
  rw [he.tasks] at htask
  obtain ⟨⟨task, s⟩, hx, rfl⟩ := List.mem_map.1 htask
  have hticket : s.ticket? = some t := (he.ongoing _ hx).meets.ticket? ▸ ht
  obtain ⟨⟨t, u⟩, huse, rfl⟩ := Option.map_eq_some_iff.1 hticket
  exact ⟨u, (he.shares.fits s (List.mem_map_of_mem hx)).use t u huse⟩

theorem Explained.spared {before after : List (Task W × Standing)} {x : Task W × Standing}
    (he : Explained C h₀ h p (before ++ x :: after) ended) {task : Task W}
    (htask : task ∈ (before ++ after).map Prod.fst) : Spared h x.2 p p' task := by
  obtain ⟨⟨task, s⟩, hy, rfl⟩ := List.mem_map.1 htask
  have hmem : (task, s) ∈ before ++ x :: after :=
    List.perm_middle.mem_iff.2 (List.mem_cons_of_mem x hy)
  have hrunning : task ∈ p.running := he.tasks ▸ List.mem_map_of_mem hmem
  refine .inr (.inr ⟨hrunning, fun t ht ↦ ⟨fun hself ↦ ?_, he.uses hrunning ht⟩⟩)
  have hticket : s.ticket? = some t := (he.ongoing _ hmem).meets.ticket? ▸ ht
  apply he.remove.2.notMem hself
  exact List.mem_filterMap.2 ⟨s, List.mem_map_of_mem (f := Prod.snd) hy, hticket⟩

/-- A step is a turn of one task, or the beginning of one, and spares the others. -/
theorem Explained.turn (hhonored : C.Honored) (he : Explained C h₀ h p running ended)
    (hstep : Pool.Step p p') :
    ∃ h' s s', Turn p.service p'.service h h' s s' ∧ ∀ task ∈ p'.running, Spared h s p p' task := by
  cases hstep with
  | start r elapsed =>
    let s : Standing := ⟨.start h.commits.length, none⟩
    have hfits : s.Fits h := ⟨fun t u huse ↦ absurd huse.symm (Option.some_ne_none _), Nat.le_refl _⟩
    have hmeets : (W.serve r).Meets (C.During r) (C.After r) s := hhonored r h.commits.length
    have hbefore (task) (htask : task ∈ p.running) (p' : Pool W) : Spared h s p p' task :=
      .inr (.inr ⟨htask, fun t ht ↦ ⟨nofun, he.uses htask ht⟩⟩)
    unfold Pool.put
    obtain ⟨result, hproceed, _⟩ | ⟨rest, hproceed, hrest, _⟩ := hmeets.proceed elapsed
    · rw [hproceed]
      refine ⟨h, s, s, .refl he.consistent he.store hfits, fun task htask ↦ ?_⟩
      exact hbefore task (List.append_nil p.running ▸ htask) _
    · rw [hproceed]
      refine ⟨h, s, s, .refl he.consistent he.store hfits, fun task htask ↦ ?_⟩
      obtain hold | hnew := List.mem_append.1 htask
      · exact hbefore task hold _
      · obtain rfl := List.mem_singleton.1 hnew
        exact .inr (.inl hrest.ticket?)
  | @advance tasks tasks' task elapsed rest service' hrunning hadvances =>
    obtain ⟨before, after, s, rfl, rfl, rfl⟩ := he.split hrunning
    have hongoing : Ongoing C task s := he.ongoing (task, s) (by simp)
    have hfits : s.Fits h := he.remove.2.fits s List.mem_cons_self
    obtain ⟨h', s', hturn, _⟩ := hongoing.meets.turn he.consistent he.store hfits hadvances
    have hothers {task' : Task W} (htask : task' ∈ before.map Prod.fst ++ after.map Prod.fst)
        (p' : Pool W) : Spared h s p p' task' :=
      he.spared (List.map_append ▸ htask)
    unfold Pool.put
    split
    case h_1 => exact ⟨h', s, s', hturn, fun task' htask ↦ hothers htask _⟩
    case h_2 =>
      refine ⟨h', s, s', hturn, fun task' htask ↦ ?_⟩
      obtain rfl | hother := List.mem_cons.1 (List.perm_middle.mem_iff.1 htask)
      · exact .inl List.getLast?_concat
      · exact hothers hother _
  | @drop tasks tasks' task hrunning =>
    obtain ⟨before, after, s, rfl, rfl, rfl⟩ := he.split hrunning
    have hongoing : Ongoing C task s := he.ongoing (task, s) (by simp)
    have hfits : s.Fits h := he.remove.2.fits s List.mem_cons_self
    obtain ⟨h', hturn⟩ := Turn.of_release he.consistent he.store hfits
    rw [← hongoing.meets.ticket?] at hturn
    exact ⟨h', s, _, hturn, fun task' htask ↦ he.spared (List.map_append ▸ htask)⟩

/-- A task finds what it holds as it has left it. -/
def Keeps (p : Pool W) : Prop :=
  ∀ task ∈ p.running, ∀ t, task.rest.ticket? = some t → ∃ turn, task.turns.getLast? = some turn ∧
    p.service.store.transaction? t = turn.2.store.transaction? t

namespace Pool.Reachable

variable (hhonored : C.Honored) (c : h₀.Consistent) (hstore : h₀.store = service.store)

include hhonored c hstore

theorem keeps (hreach : p.Reachable service) : Keeps p := by
  induction hreach with
  | start => exact nofun
  | @step p p' hreach hstep ih =>
    obtain ⟨h, running, ended, he⟩ := hreach.explained hhonored c hstore
    obtain ⟨h', s, s', hturn, hspared⟩ := he.turn hhonored hstep
    intro task htask t ht
    obtain hmoved | hnone | ⟨hold, hheld⟩ := hspared task htask
    · exact ⟨_, hmoved, rfl⟩
    · exact absurd (ht.symm.trans hnone) (Option.some_ne_none t)
    · obtain ⟨turn, hlast, hsame⟩ := ih task hold t ht
      obtain ⟨hother, u, huse⟩ := hheld t ht
      exact ⟨turn, hlast, (hturn.transaction? he.consistent he.store huse hother).trans hsame⟩

end Pool.Reachable

/-- The committed rows never get fewer. -/
theorem rows_last (hhonored : C.Honored) (c : h₀.Consistent) (hstore : h₀.store = service.store) :
    Pool.Lasts W service fun s s' ↦ s.store.rows.length ≤ s'.store.rows.length where
  refl _ := Nat.le_refl _
  trans _ _ _ := Nat.le_trans
  step p p' hreach hstep := by
    obtain ⟨h, running, ended, he⟩ := hreach.explained hhonored c hstore
    obtain ⟨h', s, s', hturn, _⟩ := he.turn hhonored hstep
    exact hturn.rows_length_le he.consistent he.store

end Runs

end Turnstile
