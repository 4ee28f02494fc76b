import Turnstile.Http.Router
import Turnstile.Proofs.Tasks.Choice
import Turnstile.Proofs.Tasks.Explanation
import Turnstile.Proofs.Tasks.Members
import Turnstile.Proofs.Workload.Bank
import Turnstile.Proofs.Workload.Replies

/-!
# What requests change

A request can change the rows or the members, never both, and only where its method and path say so.
What it changes, it changes at one turn, which is the last one before its result is known; so no reply
that reports a failure hides a change, whatever has gone wrong and wherever the deadline has passed.
-/

namespace Turnstile.Http

open Service (ServiceAction onStore onCluster)
open Store (History Session Statement)
open Workload

/-- Whether a response reports a failure, by its status or by how its body starts. -/
def reportsFailure (status : Nat) (body : String) : Bool :=
  status ≠ 200 || Reply.errorMark.isPrefixOf body.toList

def Response.failed (a : Response) : Bool :=
  reportsFailure a.status a.body

/-! ## Limits -/

/-- Whether requests to the endpoint can change rows. -/
def Endpoint.writesRows : Endpoint → Bool
  | runBatch => true
  | createAccounts => true
  | transfer => true
  | addElement => true
  | _ => false

/-- Whether requests to the endpoint can change the cluster. -/
def Endpoint.changesMembers : Endpoint → Bool
  | removeMember => true
  | _ => false

namespace Route

def writesRows : Route → Bool
  | endpoint e => e.writesRows
  | _ => false

def changesMembers : Route → Bool
  | endpoint e => e.changesMembers
  | _ => false

end Route

/-- Nothing has been changed. -/
structure Untouched (d : Deeds) : Prop where
  writes : Store.writes d.committed = 0
  changes : d.changes = 0

/-- No more has been changed than requests on the route can change. -/
structure Within (route : Route) (d : Deeds) : Prop where
  writes : Store.writes d.committed ≤ route.writesRows.toNat
  changes : d.changes ≤ route.changesMembers.toNat

/-- What is true when a response is given. -/
structure Told (route : Route) (status : Nat) (body : String) (d : Deeds) : Prop where
  within : Within route d
  untouched : reportsFailure status body → Untouched d

variable {d : Deeds} {σ : Session} {e : Endpoint} {route : Route}

namespace Untouched

theorem start (earliest : Nat) : Untouched (.start earliest) := ⟨rfl, rfl⟩

theorem within (hd : Untouched d) (route : Route) : Within route d where
  writes := by
    rw [hd.writes]
    omega
  changes := by
    rw [hd.changes]
    omega

theorem told (hd : Untouched d) (route : Route) (status : Nat) (body : String) :
    Told route status body d :=
  ⟨hd.within route, fun _ ↦ hd⟩

theorem commit (hd : Untouched d) (hdone : σ.done = []) : Untouched (d.commit σ) where
  writes := by
    calc Store.writes (d.committed ++ [σ])
      _ = Store.writes [σ] := by rw [Store.writes_append, hd.writes, Nat.zero_add]
      _ = 0 := by simp [Store.writes, hdone]
  changes := hd.changes

/-- A commit of its one transaction is within the limits of an endpoint that writes. -/
theorem commit_within (hd : Untouched d) (hwrites : e.writesRows) :
    Within (.endpoint e) (d.commit σ) where
  writes := by
    calc Store.writes (d.committed ++ [σ])
      _ = Store.writes [σ] := by rw [Store.writes_append, hd.writes, Nat.zero_add]
      _ ≤ 1 := List.countP_le_length
      _ = (Route.endpoint e).writesRows.toNat := by rw [Route.writesRows, hwrites, Bool.toNat_true]
  changes := by
    have hchanges : (d.commit σ).changes = 0 := hd.changes
    rw [hchanges]
    omega

theorem change_within (hd : Untouched d) (hchanges : e.changesMembers) :
    Within (.endpoint e) (d.change true) where
  writes := by
    have hwrites : Store.writes (d.change true).committed = 0 := hd.writes
    rw [hwrites]
    omega
  changes := by
    rw [Deeds.change, hd.changes, Route.changesMembers, hchanges]
    exact Nat.le_refl 1

end Untouched

/-- A route that can change nothing has changed nothing. -/
theorem Within.untouched (hd : Within route d) (hwrites : route.writesRows = false)
    (hchanges : route.changesMembers = false) : Untouched d where
  writes := by
    have hle := hd.writes
    rw [hwrites, Bool.toNat_false] at hle
    omega
  changes := by
    have hle := hd.changes
    rw [hchanges, Bool.toNat_false] at hle
    omega

/-! ## Texts of results -/

theorem not_mark_of_head {text : List Char} {c : Char} (hhead : text.head? = some c)
    (hc : c ≠ 'E') : ¬ Reply.errorMark <+: text := by
  rintro ⟨rest, rfl⟩
  exact hc (Option.some.inj hhead).symm

/-- A numeral does not start with the mark of a failure, whatever white space there is around it. -/
theorem not_mark_of_requiredColumn {text : List Char} {v : Int64}
    (hvalue : (Store.Value.text (String.ofList text)).requiredColumn = .ok v) :
    ¬ Reply.errorMark <+: text := by
  rintro ⟨rest, rfl⟩
  have hnone : Numeral.readInt64 (Text.trim (Reply.errorMark ++ rest)) = none :=
    Numeral.readInt64_trim_cons (by decide) (by decide) (by decide) (by decide) _
  simp only [Store.Value.requiredColumn, Store.Value.column, String.toList_ofList, hnone] at hvalue
  cases hvalue

/-! ## The work of endpoints -/

/-- What is true when the work of an endpoint has a result: a change is within the limits, and the
reply that is given for the result does not report a failure after a change. -/
def Settled (e : Endpoint) (result : Except Error String) (d : Deeds) : Prop :=
  Told (.endpoint e) 200 (Reply.render result) d

/-- The work of an endpoint changes nothing before its result is known. -/
def Works (e : Endpoint) (p : ServiceAction String) : Prop :=
  ∀ d, Untouched d → Action.Meets Service.protocol (fun s ↦ Untouched s.deeds)
    (fun result s ↦ s.use = none ∧ Settled e result s.deeds) p ⟨d, none⟩

theorem Settled.ok {text : String} (hd : Within (.endpoint e) d)
    (htext : ¬ Reply.errorMark <+: text.toList) : Settled e (.ok text) d where
  within := hd
  untouched hfails := by
    have hmark : Reply.errorMark <+: text.toList := by
      simpa [reportsFailure, Reply.render] using hfails
    exact absurd hmark htext

theorem Settled.nilReply (hd : Within (.endpoint e) d) : Settled e (.ok nilReply) d :=
  .ok hd (not_mark_of_head rfl (by decide))

theorem works_runBatch (body : String) : Works .runBatch (onStore (Append.run body)) := by
  intro d hd
  apply Service.meets_onStore
  unfold Append.run
  cases Batch.parse body with
  | error e => exact ⟨rfl, hd.told _ _ _⟩
  | ok operations =>
    apply Database.meets_transact hd (fun e ↦ ⟨rfl, hd.told _ _ _⟩)
    intro t σ _ _ hidle
    apply (Append.runs_runOperations hd operations [] hidle).imp
    rintro text σ' ⟨_, _, _, _, _, rfl⟩
    refine ⟨rfl, Settled.ok (hd.commit_within rfl) ?_⟩
    apply not_mark_of_head ?_ (by decide : '[' ≠ 'E')
    simp [Append.renderBatch]

theorem works_readBalances : Works .readBalances (onStore Bank.balances) := by
  intro d hd
  apply Service.meets_onStore
  apply Database.Meets.bind
  apply Database.meets_queryAlone hd (fun e ↦ ⟨rfl, hd.told _ _ _⟩)
  exact fun σ rows selected _ hdone _ _ ↦ ⟨rfl, (hd.commit hdone).told _ _ _⟩

theorem works_readSet : Works .readSet (onStore ValueSet.elements) := by
  intro d hd
  apply Service.meets_onStore
  apply Database.Meets.bind
  apply Database.meets_queryAlone hd (fun e ↦ ⟨rfl, hd.told _ _ _⟩)
  exact fun σ rows selected _ hdone _ _ ↦ ⟨rfl, (hd.commit hdone).told _ _ _⟩

theorem works_addElement (value : String) :
    Works .addElement (onStore (ValueSet.add value)) := by
  intro d hd
  apply Service.meets_onStore
  apply Database.Meets.bind
  apply Database.meets_execAlone hd (fun e ↦ ⟨rfl, hd.told _ _ _⟩)
  intro σ rows after n _ _ _ happly
  refine ⟨rfl, Settled.ok (hd.commit_within rfl) ?_⟩
  simp only [Statement.apply, Store.Value.column] at happly
  cases hvalue : (Store.Value.text (String.ofList (Text.trim value.toList))).requiredColumn with
  | error f =>
    rw [hvalue] at happly
    cases happly
  | ok v =>
    rw [String.toList_ofList]
    exact not_mark_of_requiredColumn hvalue

theorem works_transfer (body : String) : Works .transfer (transfer body) := by
  intro d hd
  unfold transfer
  cases Bank.Transfer.parse body with
  | error e => exact ⟨rfl, hd.told _ _ _⟩
  | ok r =>
    apply Action.Meets.bind
    apply Service.meets_onStore
    apply Database.meets_transact hd (fun e ↦ ⟨rfl, hd.told _ _ _⟩)
    intro t σ _ hdone hidle
    apply (Bank.runs_move hd r hdone hidle).imp
    exact fun _ σ' _ ↦ ⟨rfl, .nilReply (hd.commit_within rfl)⟩

/-- A conflict has changed nothing, whether it is shown or masked. -/
theorem meets_reportOpening {surface : Bool} {outcome : Bank.OpeningOutcome}
    (hd : Within (.endpoint .createAccounts) d) (hcontended : outcome = .contended → Untouched d) :
    Action.Meets Service.protocol (fun s ↦ Untouched s.deeds)
      (fun result s ↦ s.use = none ∧ Settled .createAccounts result s.deeds)
      (reportOpening surface outcome) ⟨d, none⟩ := by
  cases outcome with
  | contended =>
    have hnone : Untouched d := hcontended rfl
    cases surface with
    | true => exact ⟨rfl, hnone.told _ _ _⟩
    | false =>
      refine ⟨hnone, rfl, ?_⟩
      rintro a s' rfl
      exact ⟨rfl, hnone.told _ _ _⟩
  | created | alreadyInitialized | noShare => exact ⟨rfl, .nilReply hd⟩

theorem works_createAccounts (surface : Bool) (body : String) :
    Works .createAccounts (createAccounts surface body) := by
  intro d hd
  unfold createAccounts
  cases Bank.Opening.parse body with
  | error e => exact ⟨rfl, hd.told _ _ _⟩
  | ok r =>
    apply Action.Meets.bind
    apply Service.meets_onStore
    apply Program.Meets.bind
    apply Database.meets_transact hd
    · intro e
      cases e with
      | contention => exact meets_reportOpening (hd.within _) fun _ ↦ hd
      | _ => exact ⟨rfl, hd.told _ _ _⟩
    · intro t σ _ hdone hidle
      apply (Bank.runs_createAccounts hd r hdone hidle).imp
      intro outcome σ' houtcome
      have hwithin : Within (.endpoint .createAccounts) (d.commit σ') := hd.commit_within rfl
      cases outcome with
      | contended => exact meets_reportOpening hwithin fun _ ↦ hd.commit houtcome
      | created n => exact meets_reportOpening hwithin (fun h ↦ nomatch h)
      | alreadyInitialized => exact meets_reportOpening hwithin (fun h ↦ nomatch h)
      | noShare => exact meets_reportOpening hwithin (fun h ↦ nomatch h)

/-- What only asks about the members changes nothing. -/
theorem works_of_asks {α : Type} {p : Engine.ClusterAction α} (f : α → String)
    (hp : ∀ d, Untouched d → Engine.Asks Untouched d p) :
    Works e (do return f (← onCluster p)) := by
  intro d hd
  apply Action.Meets.andThen (Service.meets_onCluster (hp d hd))
  · rintro a _ rfl
    exact ⟨rfl, hd.told _ _ _⟩
  · rintro e _ rfl
    exact ⟨rfl, hd.told _ _ _⟩

theorem works_removeMember (directory : Membership.Directory) (body : String) :
    Works .removeMember (removeMember directory body) := by
  intro d hd
  apply Action.Meets.bind
  apply Service.meets_onCluster
  apply Membership.meets_remove directory hd
  · exact fun e ↦ ⟨rfl, hd.told _ _ _⟩
  · exact ⟨rfl, .nilReply (hd.change_within rfl)⟩

theorem works (ctx : Context) (body : String) (e : Endpoint) : Works e (work ctx body e) := by
  cases e with
  | runBatch => exact works_runBatch body
  | readBalances => exact works_readBalances
  | createAccounts => exact works_createAccounts ctx.surfaceInitContention body
  | transfer => exact works_transfer body
  | readSet => exact works_readSet
  | addElement => exact works_addElement body
  | readLeader => exact works_of_asks _ fun _ hd ↦ Membership.asks_leader ctx.directory hd
  | readMembers => exact works_of_asks _ fun _ hd ↦ Membership.asks_members ctx.directory hd
  | removeMember => exact works_removeMember ctx.directory body
  | checkReadiness => exact works_of_asks _ fun _ hd ↦ Membership.asks_ready hd ctx.expectedNodes
  | readHealth | readMetrics => exact fun d hd ↦ ⟨rfl, hd.told _ _ _⟩

/-! ## Serving -/

section Serving

variable (ctx : Context) (r : Request) (earliest : Nat)

theorem finishes_settle (name : String) {result : Option (Except Error String)}
    (hresult : Settled e (result.getD (.error .deadlineExceeded)) d) (elapsed : Duration) :
    Activity.Finishes (Within (.endpoint e)) (fun c d ↦ Told (.endpoint e) c.status c.body d)
      (settle name result elapsed) ⟨d, none⟩ := by
  refine ⟨hresult.within, rfl, ?_⟩
  rintro a s' rfl
  exact ⟨rfl, hresult⟩

theorem meets_serveEndpoint (e : Endpoint) :
    (serveEndpoint ctx r e).Meets (Within (.endpoint e))
      (fun c d ↦ Told (.endpoint e) c.status c.body d) ⟨.start earliest, none⟩ := by
  have hstart : Untouched (.start earliest) := .start earliest
  unfold serveEndpoint
  split
  · exact ⟨rfl, hstart.told _ _ _⟩
  · split
    case h_1 name _ =>
      -- Where the deadline can pass, nothing has been changed.
      apply Action.Meets.mono (works ctx r.text e _ hstart)
      · intro s hs
        have hexpired : Settled e (.error .deadlineExceeded) s.deeds := hs.told _ _ _
        exact ⟨hs.within _, finishes_settle name hexpired⟩
      · rintro result ⟨d, _⟩ ⟨rfl, hsettled⟩
        exact ⟨rfl, finishes_settle name hsettled⟩
    case h_2 =>
      split
      · refine ⟨hstart.within _, rfl, ?_⟩
        rintro a s' rfl
        exact ⟨rfl, hstart.told _ _ _⟩
      · refine ⟨hstart.within _, rfl, ?_⟩
        rintro registry s' rfl
        refine ⟨hstart.within _, rfl, ?_⟩
        rintro uptime s' rfl
        exact ⟨rfl, hstart.told _ _ _⟩

theorem meets_serveUnknown :
    serveUnknown.Meets (Within .unknown) (fun c d ↦ Told .unknown c.status c.body d)
      ⟨.start earliest, none⟩ := by
  have hstart : Untouched (.start earliest) := .start earliest
  refine ⟨hstart.within _, rfl, ?_⟩
  rintro a s' rfl
  exact ⟨rfl, hstart.told _ _ _⟩

/-- What is served to GET changes nothing. -/
theorem quiet_of_ofGet {path : String} (hget : Endpoint.ofGet path = some e) :
    e.writesRows = false ∧ e.changesMembers = false := by
  unfold Endpoint.ofGet at hget
  split at hget
  all_goals cases hget
  all_goals exact ⟨rfl, rfl⟩

theorem quiet_of_headersOnly {method path : String}
    (hroute : Route.of method path = .headersOnly e) :
    e.writesRows = false ∧ e.changesMembers = false := by
  unfold Route.of at hroute
  split at hroute
  case h_1 => cases hget : Endpoint.ofGet path <;> simp [hget] at hroute
  case h_2 =>
    cases hget : Endpoint.ofGet path with
    | none => simp [hget] at hroute
    | some e' =>
      obtain rfl : e' = e := by simpa [hget] using hroute
      exact quiet_of_ofGet hget
  case h_3 => cases hchange : Endpoint.ofChange method path <;> simp [hchange] at hroute

theorem meets_serveContent :
    (serveContent ctx r).Meets (Within (Route.of r.method r.path))
      (fun c d ↦ Told (Route.of r.method r.path) c.status c.body d) ⟨.start earliest, none⟩ := by
  have hstart : Untouched (.start earliest) := .start earliest
  unfold serveContent
  cases hroute : Route.of r.method r.path with
  | endpoint e =>
    simp only
    split
    · exact ⟨rfl, hstart.told _ _ _⟩
    · exact meets_serveEndpoint ctx r earliest e
  | unknown =>
    simp only
    split
    · exact ⟨rfl, hstart.told _ _ _⟩
    · exact meets_serveUnknown earliest
  | headersOnly e =>
    simp only
    obtain ⟨hwrites, hchanges⟩ := quiet_of_headersOnly hroute
    have hquiet {d : Deeds} (hd : Within (.endpoint e) d) : Untouched d :=
      hd.untouched hwrites hchanges
    apply Activity.Meets.map
    split
    · exact ⟨rfl, hstart.told _ _ _⟩
    · apply (meets_serveEndpoint ctx r earliest e).mono
      · exact fun d hd ↦ (hquiet hd).within _
      · exact fun c d hd ↦ (hquiet hd.within).told _ _ _

theorem meets_serve :
    (serve ctx r).Meets (Within (Route.of r.method r.path))
      (fun a d ↦ Told (Route.of r.method r.path) a.status a.body d) ⟨.start earliest, none⟩ :=
  (meets_serveContent ctx r earliest).map

end Serving

/-! ## Requests among other tasks -/

/-- Requests over HTTP, and other tasks on the same service. -/
def gateway (ctx : Context) {ι : Type} (others : ι → Activity Service.interface Unit) : Workload where
  Request := Request ⊕ ι
  Result := Sum.elim (fun _ ↦ Response) fun _ ↦ Unit
  serve
    | .inl r => serve ctx r
    | .inr i => others i

/-- The activity uses only tickets that it has been given, and holds none when it ends. -/
def Lawful (a : Activity Service.interface Unit) : Prop :=
  ∀ earliest, a.Meets (fun _ ↦ True) (fun _ _ ↦ True) ⟨.start earliest, none⟩

/-- An activity of one action on the database, whatever comes of it. -/
theorem lawful_onStore {α : Type} {action : Database.DbAction α}
    (haction : ∀ earliest, Database.Meets (fun _ ↦ True) (fun _ s ↦ s.use = none) action
      ⟨.start earliest, none⟩) :
    Lawful (.run ((onStore action).run.bind fun _ ↦ .done ())) := by
  intro earliest
  apply Program.Meets.bind
  exact Program.Meets.imp (Service.meets_onStore (haction earliest)) fun _ s huse ↦ ⟨huse, trivial⟩

/-- What the turns of a request have changed. -/
structure Effect (r : Request) (turns : List (Service × Service)) : Prop where
  once : rowTurns turns ≤ 1
  rows : rowTurns turns ≠ 0 → (r.method, r.path) ∈
    [("POST", "/append"), ("PUT", "/bank"), ("POST", "/bank"), ("POST", "/set")]
  members : clusterTurns turns ≠ 0 → (r.method, r.path) = ("DELETE", "/members")

/-- Requests have changed only what they can change, and nothing where they have failed. -/
structure Contained {ctx : Context} {ι : Type} {others : ι → Activity Service.interface Unit}
    (p : Pool (gateway ctx others)) : Prop where
  running : ∀ task ∈ p.running, ∀ r, task.request = .inl r → Effect r task.turns
  ended : ∀ o ∈ p.ended, ∀ r, o.request = .inl r → Effect r o.turns
  failed : ∀ r since turns, ∀ answer : Response,
    (⟨.inl r, since, turns, some answer⟩ : Outcome (gateway ctx others)) ∈ p.ended →
      answer.failed → rowTurns turns = 0 ∧ clusterTurns turns = 0

section Gateway

variable {ctx : Context} {ι : Type} {others : ι → Activity Service.interface Unit}
  {turns : List (Service × Service)} {r : Request}

/-- Requests stay within the limits of their routes; nothing is said of the other tasks. -/
def contract (ctx : Context) (others : ι → Activity Service.interface Unit) :
    Contract (gateway ctx others) where
  During
    | .inl r, d => Within (Route.of r.method r.path) d
    | .inr _, _ => True
  After
    | .inl r, answer, d =>
      let answer : Response := answer
      Told (Route.of r.method r.path) answer.status answer.body d
    | .inr _, _, _ => True

theorem honored (hlawful : ∀ i, Lawful (others i)) : (contract ctx others).Honored := by
  intro request earliest
  cases request with
  | inl r => exact meets_serve ctx r earliest
  | inr i => exact hlawful i earliest

/-- The requests that can change rows. -/
theorem mem_of_writesRows {method path : String} (hwrites : (Route.of method path).writesRows) :
    (method, path) ∈
      [("POST", "/append"), ("PUT", "/bank"), ("POST", "/bank"), ("POST", "/set")] := by
  unfold Route.of at hwrites
  split at hwrites
  case h_1 =>
    cases hget : Endpoint.ofGet path with
    | none => simp [hget, Route.writesRows] at hwrites
    | some e => simp [hget, Route.writesRows, (quiet_of_ofGet hget).1] at hwrites
  case h_2 => cases hget : Endpoint.ofGet path <;> simp [hget, Route.writesRows] at hwrites
  case h_3 =>
    unfold Endpoint.ofChange at hwrites
    split at hwrites
    all_goals simp [Route.writesRows, Endpoint.writesRows] at hwrites ⊢

/-- The requests that can change the cluster. -/
theorem eq_of_changesMembers {method path : String}
    (hchanges : (Route.of method path).changesMembers) : (method, path) = ("DELETE", "/members") := by
  unfold Route.of at hchanges
  split at hchanges
  case h_1 =>
    cases hget : Endpoint.ofGet path with
    | none => simp [hget, Route.changesMembers] at hchanges
    | some e => simp [hget, Route.changesMembers, (quiet_of_ofGet hget).2] at hchanges
  case h_2 => cases hget : Endpoint.ofGet path <;> simp [hget, Route.changesMembers] at hchanges
  case h_3 =>
    unfold Endpoint.ofChange at hchanges
    split at hchanges
    all_goals simp [Route.changesMembers, Endpoint.changesMembers] at hchanges ⊢

/-- Turns that are accounted for have changed what the deeds say. -/
theorem effect_of_within (haccounts : Accounts turns d)
    (hwithin : Within (Route.of r.method r.path) d) : Effect r turns := by
  have hrows := Nat.le_trans haccounts.rows hwithin.writes
  have hmembers := Nat.le_trans haccounts.cluster hwithin.changes
  constructor
  case once => exact Nat.le_trans hrows (Bool.toNat_le _)
  case rows =>
    intro hsome
    apply mem_of_writesRows
    by_contra hnot
    rw [Bool.not_eq_true] at hnot
    rw [hnot, Bool.toNat_false] at hrows
    omega
  case members =>
    intro hsome
    apply eq_of_changesMembers
    by_contra hnot
    rw [Bool.not_eq_true] at hnot
    rw [hnot, Bool.toNat_false] at hmembers
    omega

/-- Whatever tasks share the service, a request changes rows or the cluster only where its method and
path say so, at one turn at most, and not at all if the response reports a failure. -/
theorem contained (hlawful : ∀ i, Lawful (others i)) {busyTimeout : Nat} {h₀ : History}
    (hhistory : h₀.Reachable busyTimeout) {service : Service} (hstore : h₀.store = service.store)
    {p : Pool (gateway ctx others)} (hreach : p.Reachable service) : Contained p := by
  obtain ⟨h, running, ended, he⟩ := hreach.explained (honored hlawful) hhistory.consistent hstore
  constructor
  case running =>
    intro task htask r hrequest
    rw [he.tasks] at htask
    obtain ⟨⟨_, s⟩, hx, rfl⟩ := List.mem_map.1 htask
    have hongoing := he.ongoing _ hx
    have hduring : (contract ctx others).During (.inl r) s.deeds := hrequest ▸ hongoing.during
    exact effect_of_within hongoing.accounts hduring
  case ended =>
    intro o ho r hrequest
    rw [he.outcomes] at ho
    obtain ⟨⟨⟨request, since, turns, result⟩, d⟩, hx, rfl⟩ := List.mem_map.1 ho
    obtain rfl : request = .inl r := hrequest
    have hover := he.finished _ hx
    have hwithin : Within (Route.of r.method r.path) d := by
      cases result with
      | none => exact hover.kept
      | some answer =>
        have htold : Told (Route.of r.method r.path) _ _ d := hover.kept
        exact htold.within
    exact effect_of_within hover.accounts hwithin
  case failed =>
    intro r since turns answer ho hfailed
    rw [he.outcomes] at ho
    obtain ⟨⟨_, d⟩, hx, rfl⟩ := List.mem_map.1 ho
    have hover := he.finished _ hx
    have htold : Told (Route.of r.method r.path) answer.status answer.body d := hover.kept
    have hnone : Untouched d := htold.untouched hfailed
    have hrows := hover.accounts.rows
    have hmembers := hover.accounts.cluster
    rw [hnone.writes] at hrows
    rw [hnone.changes] at hmembers
    exact ⟨Nat.le_zero.1 hrows, Nat.le_zero.1 hmembers⟩

end Gateway

/-- A node that knows another. -/
def nodeA : Context where
  node := "a"
  directory := ⟨.ofTable [("10.0.0.2", "b")], 1⟩
  expectedNodes := 1
  requestTimeout := 9
  surfaceInitContention := false

/-- A statement that another task executes. -/
def insertion : Statement := .insert (.integer 1) (.integer 10)

def writer : Activity Service.interface Unit :=
  .run ((onStore (Database.execAlone insertion)).run.bind fun _ ↦ .done ())

theorem lawful_writer : Lawful writer := by
  apply lawful_onStore
  intro earliest
  apply Database.meets_execAlone trivial
  · exact fun e ↦ rfl
  · exact fun σ rows after n _ _ _ _ ↦ rfl

/-- While another task writes, an addition to the set waits until its deadline has passed; a second
addition follows, and then a member is removed, which works only once. -/
def exchange : Option (Pool (gateway nodeA fun _ : Unit ↦ writer)) :=
  let request (method path body : String) : Choice (gateway nodeA fun _ : Unit ↦ writer) :=
    .start (Sum.inl ⟨method, path, [], body.toUTF8⟩)
  let start : Service :=
    { Service.fresh 5 with
      store := (History.withTable 5).store
      cluster := ⟨[⟨1, "10.0.0.2:1", .voter⟩], some 1, 1⟩ }
  (Pool.idle start).run
    [.start (Sum.inr ()), .advance 0, .advance 0, request "POST" "/set" "7", .advance 1, .advance 1,
      .expire 1, .advance 1, .advance 0, request "POST" "/set" "8", .advance 0, .advance 0,
      .advance 0, .advance 0, request "DELETE" "/members" "b", .advance 0, .advance 0, .advance 0,
      .advance 0, request "DELETE" "/members" "b", .advance 0, .advance 0]

theorem contained_exchange :
    ∃ p, exchange = some p ∧ p.ended.map (fun o ↦ rowTurns o.turns) = [0, 1, 1, 0, 0] ∧
      p.ended.map (fun o ↦ clusterTurns o.turns) = [0, 0, 0, 1, 0] ∧ Contained p := by
  obtain ⟨p, hp⟩ := Option.isSome_iff_exists.1 (by decide +kernel : exchange.isSome = true)
  have hrows : exchange.map (·.ended.map fun o ↦ rowTurns o.turns) = some [0, 1, 1, 0, 0] := by
    decide +kernel
  have hmembers : exchange.map (·.ended.map fun o ↦ clusterTurns o.turns) =
      some [0, 0, 0, 1, 0] := by
    decide +kernel
  simp only [hp, Option.map_some, Option.some.injEq] at hrows hmembers
  have hcontained : Contained p :=
    contained (fun _ ↦ lawful_writer) (History.Reachable.withTable 5) rfl (Pool.Reachable.start.run hp)
  exact ⟨p, hp, hrows, hmembers, hcontained⟩

end Turnstile.Http
