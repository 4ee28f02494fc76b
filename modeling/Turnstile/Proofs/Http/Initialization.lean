import Turnstile.Proofs.Http.Effects
import Turnstile.Proofs.Tasks.Tracing

/-!
# Account creations that are answered `nil`

An account creation is answered `nil` when it has created its accounts, when there were rows before,
and, where conflicts are masked, when another writer was in the way.  In the first two cases there are
committed rows when the answer is given, and they stay, since no transaction takes a committed row away.
In the third the request has counted the conflict, and it has changed no rows.

A creation that is told of rows has seen those that its transaction began on, which were committed.
-/

namespace Turnstile.Http

open Store (History Session)
open Workload

/-! ## Outcomes of a creation -/

/-- What an account creation has committed when it has come to an outcome. -/
def Opened (r : Bank.Opening) : Except Error Bank.OpeningOutcome → Standing → Prop
  | .error _, _ => True
  | .ok .contended, s => s.deeds.committed = []
  | .ok outcome, s => ∃ σ ∈ s.deeds.committed, Bank.Concludes r outcome σ

theorem opened_openAccounts (r : Bank.Opening) {During : Deeds → Prop} {earliest : Nat}
    (hduring : During (.start earliest)) :
    Database.Meets During (Opened r) (Bank.openAccounts r) ⟨.start earliest, none⟩ := by
  apply Program.Meets.bind
  apply Database.meets_transact hduring
  · intro e
    cases e with
    | contention => exact rfl
    | _ => exact trivial
  · intro t σ _ hdone hidle
    apply (Bank.runs_conclude hduring r hdone hidle).imp
    intro outcome σ' hconcludes
    cases outcome with
    | contended => exact hconcludes.elim
    | created | alreadyInitialized | noShare => exact ⟨σ', List.mem_singleton_self σ', hconcludes⟩

/-- A creation that was not in conflict has found committed rows or has committed some. -/
theorem rows_of_concludes {r : Bank.Opening} (hsome : r.accounts ≠ []) {s : Standing}
    {turns : List (Service × Service)} (htraced : Traced s turns) {σ : Session}
    (hσ : σ ∈ s.deeds.committed) {outcome : Bank.OpeningOutcome}
    (hconcludes : Bank.Concludes r outcome σ) : ∃ turn ∈ turns, turn.2.store.rows ≠ [] := by
  obtain ⟨⟨first, hfirst, hbegins⟩, last, hlast, hends⟩ := htraced.committed σ hσ
  cases outcome with
  | created n =>
    obtain ⟨hbase, hopens⟩ := hconcludes
    obtain ⟨balance, hbalance, hdone⟩ := hopens.done
    have hsome' : σ.done ≠ [] := by
      rw [hdone]
      exact fun hnil ↦ hsome (List.map_eq_nil_iff.1 hnil)
    have hview : σ.view = some (r.accounts.map fun id ↦ ⟨some id, balance⟩) := by
      rw [Session.view, hbase, hdone]
      exact Bank.replay_insert r.accounts balance []
    refine ⟨last, hlast, ?_⟩
    rw [Store.rows, hends, if_neg hsome', hview]
    exact fun hnil ↦ hsome (List.map_eq_nil_iff.1 hnil)
  | alreadyInitialized =>
    have hrows : first.2.store.rows = σ.rows := hbegins.toBegun.rows.trans hbegins.rows
    exact ⟨first, hfirst, hrows ▸ hconcludes.2⟩
  | contended => exact hconcludes.elim
  | noShare =>
    obtain ⟨_, hnone⟩ := hconcludes
    simp [Bank.Opening.balance?, hsome] at hnone

/-! ## What has been seen or counted -/

/-- One of the turns counts a masked conflict, and none of them changes the committed rows. -/
structure Masked (turns : List (Service × Service)) : Prop where
  counted : ∃ first turn last, turns = first ++ turn :: last ∧
    turn.2.metrics.maskedContention = turn.1.metrics.maskedContention + 1 ∧
    ∀ other ∈ first ++ last,
      other.2.metrics.maskedContention = other.1.metrics.maskedContention
  rows : rowTurns turns = 0

/-- There were committed rows after one of the turns, or a conflict has been masked. -/
def Acknowledged (surface : Bool) (turns : List (Service × Service)) : Prop :=
  (∃ turn ∈ turns, turn.2.store.rows ≠ []) ∨ surface = false ∧ Masked turns

section Turns

variable {turns : List (Service × Service)} {turn : Service × Service}

theorem Masked.count (hbefore : ∀ other ∈ turns, other.2.metrics = other.1.metrics)
    (hrows : rowTurns turns = 0) (hsame : turn.2.store = turn.1.store)
    (hcounts : turn.2.metrics = turn.1.metrics.increment .maskedContention) :
    Masked (turns ++ [turn]) where
  counted := by
    refine ⟨turns, turn, [], rfl, congrArg (·.maskedContention) hcounts, fun other hother ↦ ?_⟩
    rw [List.append_nil] at hother
    exact congrArg (·.maskedContention) (hbefore other hother)
  rows := by
    rw [rowTurns_concat, hrows, hsame, if_pos rfl]

theorem Masked.concat (hmasked : Masked turns) (hsame : turn.2.store = turn.1.store)
    (hcounts : turn.2.metrics.maskedContention = turn.1.metrics.maskedContention) :
    Masked (turns ++ [turn]) where
  counted := by
    obtain ⟨first, masking, last, rfl, hmasking, hothers⟩ := hmasked.counted
    refine ⟨first, masking, last ++ [turn], by simp, hmasking, ?_⟩
    rw [← List.append_assoc]
    exact List.forall_mem_append.2 ⟨hothers, List.forall_mem_singleton.2 hcounts⟩
  rows := by
    rw [rowTurns_concat, hmasked.rows, hsame, if_pos rfl]

theorem Acknowledged.concat {surface : Bool} (hacknowledged : Acknowledged surface turns)
    (hsame : turn.2.store = turn.1.store)
    (hcounts : turn.2.metrics.maskedContention = turn.1.metrics.maskedContention) :
    Acknowledged surface (turns ++ [turn]) := by
  obtain ⟨seen, hseen, hrows⟩ | ⟨hmasks, hmasked⟩ := hacknowledged
  · exact .inl ⟨seen, List.mem_append_left _ hseen, hrows⟩
  · exact .inr ⟨hmasks, hmasked.concat hsame hcounts⟩

end Turns

/-! ## The work -/

/-- A creation that is answered `nil` is acknowledged. -/
def Nils (surface : Bool) (result : Except Error String) (turns : List (Service × Service)) : Prop :=
  result = .ok nilReply → Acknowledged surface turns

theorem nils_error {surface : Bool} (e : Error) (turns : List (Service × Service)) :
    Nils surface (.error e) turns := nofun

theorem nils_reportOpening {surface : Bool} {r : Bank.Opening} (hsome : r.accounts ≠ [])
    {outcome : Bank.OpeningOutcome} {s : Standing} {turns : List (Service × Service)}
    (hopened : Opened r (.ok outcome) s) (htraced : Traced s turns) :
    Action.Meets (remembering Isolated) (fun _ ↦ True) (Nils surface)
      (reportOpening surface outcome) turns := by
  cases outcome with
  | contended =>
    have hrows : rowTurns turns = 0 := by
      have hle := htraced.rows
      rw [show s.deeds.committed = [] from hopened] at hle
      exact Nat.le_zero.1 hle
    cases surface with
    | true => exact nils_error _ turns
    | false =>
      refine ⟨trivial, trivial, ?_⟩
      rintro _ _ ⟨service, _, rfl, rfl⟩
      exact fun _ ↦ .inr ⟨rfl, .count htraced.metrics hrows rfl rfl⟩
  | created | alreadyInitialized | noShare =>
    obtain ⟨σ, hσ, hconcludes⟩ := hopened
    exact fun _ ↦ .inl (rows_of_concludes hsome htraced hσ hconcludes)

theorem nils_createAccounts (surface : Bool) (body : String) :
    Action.Meets (remembering Isolated) (fun _ ↦ True) (Nils surface)
      (createAccounts surface body) [] := by
  unfold createAccounts
  cases hparse : Bank.Opening.parse body with
  | error e => exact nils_error e []
  | ok r =>
    apply Action.Meets.bind
    have hopens : Database.Meets (fun _ ↦ True) (Opened r) (Bank.openAccounts r) ⟨.start 0, none⟩ :=
      opened_openAccounts r trivial
    apply (Service.traced_onStore hopens (.start 0)).imp
    rintro result turns ⟨s, hopened, htraced⟩
    cases result with
    | error e => exact nils_error e turns
    | ok outcome => exact nils_reportOpening (Bank.Opening.accounts_ne_nil_of_parse hparse) hopened htraced

/-! ## Serving -/

theorem maskedContention_record (registry : Metrics.Registry) (name : String) (elapsed : Duration)
    (e : Option Error) :
    (registry.record name elapsed e).maskedContention = registry.maskedContention := by
  cases e <;> rfl

theorem ofError_ne_nilReply (e : Error) : Reply.ofError e ≠ nilReply := by
  intro heq
  have hhead : (Reply.ofError e).toList.head? = nilReply.toList.head? := by rw [heq]
  simp [Reply.ofError, Reply.errorMark, nilReply] at hhead

section Serving

variable (ctx : Context) {r : Request} {turns : List (Service × Service)}

theorem shows_settle {surface : Bool} (name : String) {result : Option (Except Error String)}
    (hresult : Nils surface (result.getD (.error .deadlineExceeded)) turns) (elapsed : Duration) :
    (settle name result elapsed).Meets (remembering Isolated) (fun _ ↦ True)
      (fun c turns ↦ c.body = nilReply → Acknowledged surface turns) turns := by
  refine ⟨trivial, trivial, ?_⟩
  rintro _ _ ⟨service, _, rfl, rfl⟩
  intro hbody
  generalize result.getD (.error .deadlineExceeded) = result at hresult hbody ⊢
  cases result with
  | error e => exact absurd hbody (ofError_ne_nilReply e)
  | ok text =>
    have hnil : text = nilReply := hbody
    exact (hresult (congrArg _ hnil)).concat rfl (maskedContention_record _ _ _ _)

theorem shows_serve (hmethod : r.method = "PUT") (hpath : r.path = "/bank") :
    (serve ctx r).Shows (remembering Isolated)
      (fun a turns ↦ a.body = nilReply → Acknowledged ctx.surfaceInitContention turns) [] := by
  have hroute : Route.of r.method r.path = .endpoint .createAccounts := by
    rw [hmethod, hpath]
    rfl
  have hdeclared : Content.declaredTooLong.body ≠ nilReply := by decide
  have hlong : Content.tooLong.body ≠ nilReply := by decide
  apply Activity.Shows.map
  unfold serveContent
  simp only [hroute]
  split
  · exact fun hbody ↦ absurd hbody hdeclared
  · unfold serveEndpoint
    split
    · exact fun hbody ↦ absurd hbody hlong
    · apply Program.Meets.mono (nils_createAccounts ctx.surfaceInitContention r.text)
      · exact fun _ _ elapsed turns ↦ shows_settle _ (nils_error _ turns) elapsed
      · exact fun result turns hnils elapsed ↦ shows_settle _ hnils elapsed

end Serving

/-! ## Requests among other tasks -/

/-- What the answer to a request tells of its turns. -/
def Tells (ctx : Context) {ι : Type} {others : ι → Activity Service.interface Unit} :
    (r : (gateway ctx others).Request) → (gateway ctx others).Result r →
      List (Service × Service) → Prop
  | .inl r, answer, turns =>
    let answer : Response := answer
    r.method = "PUT" → r.path = "/bank" → answer.body = nilReply →
      Acknowledged ctx.surfaceInitContention turns
  | .inr _, _, _ => True

/-- Every account creation that has been answered `nil` leaves a table with rows for good, or has
masked a conflict that was not to be shown. -/
def Initialized {ctx : Context} {ι : Type} {others : ι → Activity Service.interface Unit}
    (p : Pool (gateway ctx others)) : Prop :=
  ∀ r since turns, ∀ answer : Response,
    (⟨.inl r, since, turns, some answer⟩ : Outcome (gateway ctx others)) ∈ p.ended →
      r.method = "PUT" → r.path = "/bank" → answer.body = nilReply →
        (∀ p', p.Later p' → p'.service.store.rows ≠ []) ∨
          ctx.surfaceInitContention = false ∧ Masked turns

section Gateway

variable {ctx : Context} {ι : Type} {others : ι → Activity Service.interface Unit}

theorem shows_tells (request : (gateway ctx others).Request) :
    ((gateway ctx others).serve request).Shows (remembering Isolated) (Tells ctx request) [] := by
  have hany : ∀ turns c, (remembering Isolated).Permits turns c := fun _ _ ↦ trivial
  cases request with
  | inr i => exact Activity.shows_any hany (fun _ _ ↦ trivial) (others i) []
  | inl r =>
    by_cases hbank : r.method = "PUT" ∧ r.path = "/bank"
    · exact (shows_serve ctx hbank.1 hbank.2).imp fun _ _ hnils _ _ ↦ hnils
    · exact Activity.shows_any hany (fun _ _ hmethod hpath ↦ absurd ⟨hmethod, hpath⟩ hbank) _ []

/-- Whatever tasks share the service, an account creation that is answered `nil` leaves a table with
rows for good, or has counted a conflict and changed nothing. -/
theorem initialized (hlawful : ∀ i, Lawful (others i)) {busyTimeout : Nat} {h₀ : History}
    (hhistory : h₀.Reachable busyTimeout) {service : Service} (hstore : h₀.store = service.store)
    {p : Pool (gateway ctx others)} (hreach : p.Reachable service) : Initialized p := by
  intro r since turns answer ho hmethod hpath hbody
  have hhonored : (contract ctx others).Honored := honored hlawful
  have htells : Tells ctx (.inl r) answer turns :=
    hreach.remembers shows_tells
      (fun p task c hreach htask hcall ↦
        hreach.isolated hhonored hhistory.consistent hstore htask hcall)
      ho rfl
  obtain ⟨turn, hturn, hrows⟩ | hmasked := htells hmethod hpath hbody
  · have hlasts := rows_last hhonored hhistory.consistent hstore
    have hmem : turns ∈ p.turns := List.mem_append_right _ (List.mem_map_of_mem ho)
    have hsome : 0 < turn.2.store.rows.length := List.length_pos_iff.2 hrows
    refine .inl fun p' hlater ↦ List.length_pos_iff.1 ?_
    calc 0
      _ < turn.2.store.rows.length := hsome
      _ ≤ p.service.store.rows.length := hlasts.turn hreach turns hmem turn hturn
      _ ≤ p'.service.store.rows.length := hlasts.later hreach hlater
  · exact .inr hmasked

end Gateway

/-- While accounts are being created, another creation finds no rows and gives up its wait for the
lock; a third one comes when the first has ended. -/
def contest : Option (Pool (gateway nodeA fun _ : Unit ↦ writer)) :=
  let opening (accounts : String) : Choice (gateway nodeA fun _ : Unit ↦ writer) :=
    let body := "\x7b:accounts [" ++ accounts ++ "] :total-amount 10\x7d"
    .start (Sum.inl ⟨"PUT", "/bank", [], body.toUTF8⟩)
  (Pool.idle { Service.fresh 5 with store := (History.withTable 5).store }).run
    [opening "1 2", .advance 0, .advance 0, .advance 0, opening "3", .advance 1, .advance 1,
      .advance 1, .advance 1, .advance 1, .advance 1, .advance 1, .advance 0, .advance 0,
      .advance 0, opening "4", .advance 0, .advance 0, .advance 0, .advance 0]

/-- The bodies of the responses that requests have ended with. -/
def bodies (p : Pool (gateway nodeA fun _ : Unit ↦ writer)) : List String :=
  p.ended.filterMap fun
    | ⟨.inl _, _, _, some answer⟩ =>
      let answer : Response := answer
      some answer.body
    | _ => none

theorem initialized_contest :
    ∃ p, contest = some p ∧ bodies p = [nilReply, nilReply, nilReply] ∧
      p.service.store.rows = [⟨some 1, 5⟩, ⟨some 2, 5⟩] ∧
      p.service.metrics.maskedContention = 1 ∧ Initialized p := by
  have hcontest : contest.map (fun p ↦
      (bodies p, p.service.store.rows, p.service.metrics.maskedContention)) =
        some ([nilReply, nilReply, nilReply], [⟨some 1, 5⟩, ⟨some 2, 5⟩], 1) := by
    decide +kernel
  obtain ⟨p, hp, hfound⟩ := Option.map_eq_some_iff.1 hcontest
  obtain ⟨hbodies, hrows, hmasked⟩ : bodies p = [nilReply, nilReply, nilReply] ∧
      p.service.store.rows = [⟨some 1, 5⟩, ⟨some 2, 5⟩] ∧
      p.service.metrics.maskedContention = 1 := by
    simpa only [Prod.mk.injEq] using hfound
  have hinitialized : Initialized p :=
    initialized (fun _ ↦ lawful_writer) (History.Reachable.withTable 5) rfl
      (Pool.Reachable.start.run hp)
  exact ⟨p, hp, hbodies, hrows, hmasked, hinitialized⟩

end Turnstile.Http
