import Turnstile.Proofs.Http.Effects
import Turnstile.Proofs.Tasks.Evaluation

/-!
# The mark of a failure

Failures and results travel as texts with one status, so how a reply starts is all that tells them
apart.  No result starts with the mark of a failure: most are enclosed in brackets, quotes or braces,
and the one that is echoed as it came has been read as a number when its statement succeeded.  A client
therefore gets back the result or the message of the failure that the handler has come to, whatever the
rows, the members, the names in use and the texts that others have sent.
-/

namespace Turnstile

/-! ## Reading replies -/

namespace Reply

theorem afterMark_append (mark s : List Char) : afterMark mark (mark ++ s) = some s := by
  induction mark with
  | nil => rfl
  | cons c mark ih =>
    calc afterMark (c :: mark) (c :: (mark ++ s))
      _ = afterMark mark (mark ++ s) := if_pos rfl
      _ = some s := ih

theorem eq_of_afterMark {mark s rest : List Char} (hrest : afterMark mark s = some rest) :
    s = mark ++ rest := by
  induction mark, s using afterMark.induct with
  | case1 s => exact Option.some.inj hrest
  | case2 => simp [afterMark] at hrest
  | case3 c mark s ih =>
    rw [afterMark, if_pos rfl] at hrest
    rw [ih hrest, List.cons_append]
  | case4 m mark c s hc =>
    rw [afterMark, if_neg hc] at hrest
    simp at hrest

/-- A text without the mark is read as the result that it is. -/
theorem parse_of_unmarked {text : String} (hmark : ¬ errorMark <+: text.toList) :
    parse text = .ok text := by
  have hnone : afterMark errorMark text.toList = none := by
    rw [Option.eq_none_iff_forall_ne_some]
    intro rest hrest
    exact hmark ⟨rest, (eq_of_afterMark hrest).symm⟩
  rw [parse, hnone]

theorem toList_ofError (e : Error) : (ofError e).toList = errorMark ++ e.message.toList := by
  rw [ofError, String.toList_append, String.toList_ofList]

/-- The reply of a failure is read as the message of the failure. -/
theorem parse_ofError (e : Error) : parse (ofError e) = .error (.other e.message) := by
  rw [parse, toList_ofError, afterMark_append]
  simp only [String.ofList_toList]

end Reply

/-! ## Activities with changed results -/

namespace Activity

variable {I : Interface} {R S T : Type}

theorem map_run_done (f : R → S) (r : R) :
    (run (.done r) : Activity I R).map f = run (.done (f r)) := rfl

theorem bind_map (p : Program I R) (f : R → S) (g : S → T) :
    ((p.bind fun r ↦ .done (f r)).bind fun s ↦ .done (g s)) = p.bind fun r ↦ .done (g (f r)) := by
  induction p with
  | done r => rfl
  | call c next ih =>
    simp only [Program.bind_call]
    congr 1
    funext answer
    exact ih answer

@[simp]
theorem map_map (f : R → S) (g : S → T) (a : Activity I R) :
    (a.map f).map g = a.map fun r ↦ g (f r) := by
  induction a with
  | run p => exact congrArg run (bind_map p f g)
  | limited limit work finish =>
    simp only [map]
    congr 1
    funext result elapsed
    exact bind_map _ f g
  | after pause next ih => exact congrArg (after pause) ih

theorem bind_done (p : Program I R) : (p.bind fun r ↦ .done r) = p := by
  induction p with
  | done r => rfl
  | call c next ih =>
    rw [Program.bind_call]
    congr 1
    funext answer
    exact ih answer

@[simp]
theorem map_id' (a : Activity I R) : (a.map fun r ↦ r) = a := by
  induction a with
  | run p => exact congrArg run (bind_done p)
  | limited limit work finish =>
    simp only [map]
    congr 1
    funext result elapsed
    exact bind_done _
  | after pause next ih => exact congrArg (after pause) ih

end Activity

namespace Http

open Service (ServiceAction)
open Store (History Statement)
open Workload

/-! ## Handlers and their results -/

/-- How a request is dealt with. -/
inductive Handling where
  /-- No endpoint has its method and path. -/
  | unlisted
  /-- Its body is not read, since it is too long. -/
  | oversized
  /-- The handler of its endpoint has come to a result, or the deadline has passed. -/
  | handled (result : Except Error String)

/-- The handler has failed, or there is none. -/
def Handling.Fails : Handling → Prop
  | unlisted => True
  | oversized => False
  | handled result => ∃ e, result = .error e

/-- Serves an endpoint, and tells what its handler has come to. -/
def observeEndpoint (ctx : Context) (r : Request) (e : Endpoint) :
    Activity Service.interface (Handling × Content) :=
  if e.readsBody ∧ r.bodyLimit < r.body.size then .run (.done (.oversized, .tooLong))
  else
    match e.metricsName with
    | some name =>
      .limited ctx.requestTimeout (work ctx r.text e).run fun result elapsed ↦
        (settle name result elapsed).bind fun content ↦
          .done (.handled (result.getD (.error .deadlineExceeded)), content)
    | none => (serveEndpoint ctx r e).map fun content ↦ (.handled (.ok content.body), content)

/-- Serves a request, and tells how it has been dealt with. -/
def observe (ctx : Context) (r : Request) : Activity Service.interface (Handling × Response) :=
  if maxBodyBytes < r.declaredLength?.getD 0 then
    (serve ctx r).map fun answer ↦ (.oversized, answer)
  else
    match Route.of r.method r.path with
    | .endpoint e => (observeEndpoint ctx r e).map fun x ↦ (x.1, x.2.respond r)
    | .headersOnly e => (observeEndpoint ctx r e).map fun x ↦ (x.1, x.2.withoutBody.respond r)
    | .unknown => (serve ctx r).map fun answer ↦ (.unlisted, answer)

theorem map_observeEndpoint (ctx : Context) (r : Request) (e : Endpoint) :
    (observeEndpoint ctx r e).map Prod.snd = serveEndpoint ctx r e := by
  unfold observeEndpoint
  split
  case isTrue hlong =>
    unfold serveEndpoint
    rw [if_pos hlong, Activity.map_run_done]
  case isFalse hshort =>
    cases hname : e.metricsName with
    | some name =>
      unfold serveEndpoint
      rw [if_neg hshort, hname]
      simp only [Activity.map, Activity.bind_map, Activity.bind_done]
    | none => rw [Activity.map_map, Activity.map_id']

/-- Telling how a request is dealt with changes nothing about how it is served. -/
theorem map_observe (ctx : Context) (r : Request) :
    (observe ctx r).map Prod.snd = serve ctx r := by
  unfold observe
  split
  case isTrue => rw [Activity.map_map, Activity.map_id']
  case isFalse hshort =>
    cases hroute : Route.of r.method r.path with
    | endpoint e =>
      calc ((observeEndpoint ctx r e).map fun x ↦ (x.1, x.2.respond r)).map Prod.snd
        _ = ((observeEndpoint ctx r e).map Prod.snd).map fun content ↦ content.respond r := by
          rw [Activity.map_map, Activity.map_map]
        _ = serve ctx r := by
          rw [map_observeEndpoint, serve, serveContent, hroute]
          simp only [if_neg hshort]
    | headersOnly e =>
      calc ((observeEndpoint ctx r e).map fun x ↦ (x.1, x.2.withoutBody.respond r)).map Prod.snd
        _ = (((observeEndpoint ctx r e).map Prod.snd).map Content.withoutBody).map
            fun content ↦ content.respond r := by
          rw [Activity.map_map, Activity.map_map, Activity.map_map]
        _ = serve ctx r := by
          rw [map_observeEndpoint, serve, serveContent, hroute]
          simp only [if_neg hshort]
    | unknown => rw [Activity.map_map, Activity.map_id']

/-! ## Results without the mark -/

/-- A result does not look like a failure. -/
def Unmarked : Except Error String → Prop
  | .ok text => ¬ Reply.errorMark <+: text.toList
  | .error _ => True

theorem unmarked_error (e : Error) : Unmarked (.error e) := trivial

theorem unmarked_of_head {text : String} {c : Char} (hhead : text.toList.head? = some c)
    (hc : c ≠ 'E') : Unmarked (.ok text) :=
  not_mark_of_head hhead hc

theorem unmarked_nilReply : Unmarked (.ok nilReply) :=
  unmarked_of_head rfl (by decide : 'n' ≠ 'E')

/-! ## The results of endpoints -/

section Results

open Database (gives_pure gives_then gives_throw)

theorem unmarked_renderBatch (answers : List String) :
    Unmarked (.ok (Append.renderBatch answers)) :=
  unmarked_of_head (c := '[') (by simp [Append.renderBatch]) (by decide)

theorem gives_runOperations (t : Store.Ticket) (operations : List Batch.Operation)
    (answers : List String) :
    Database.Gives Unmarked (Append.runOperations t answers operations) := by
  induction operations generalizing answers with
  | nil => exact gives_pure (unmarked_renderBatch answers.reverse)
  | cons operation rest ih =>
    exact gives_then unmarked_error (fun answer ↦ ih (answer :: answers)) _

theorem gives_run (document : String) : Database.Gives Unmarked (Append.run document) := by
  unfold Append.run
  cases Batch.parse document with
  | error e => exact gives_throw (unmarked_error e)
  | ok operations =>
    exact Database.gives_transact unmarked_error fun t ↦ gives_runOperations t operations []

theorem gives_balances : Database.Gives Unmarked Bank.balances :=
  gives_then unmarked_error
    (fun rows ↦ gives_pure (unmarked_of_head (c := '\x7b') (by simp [Bank.renderBalances])
      (by decide))) _

theorem gives_elements : Database.Gives Unmarked ValueSet.elements :=
  gives_then unmarked_error
    (fun rows ↦ gives_pure (unmarked_of_head (c := '[') (by simp [ValueSet.renderElements])
      (by decide))) _

/-- An element that could be inserted is a number, apart from the white space around it. -/
theorem unmarked_of_applicable {key : Store.Value} {value : List Char}
    (happlicable : (Statement.insert key (.text (String.ofList value))).Applicable) :
    Unmarked (.ok (String.ofList value)) := by
  obtain ⟨rows, result, happly⟩ := happlicable
  cases hvalue : (Store.Value.text (String.ofList value)).requiredColumn with
  | error f =>
    rw [Statement.apply, hvalue] at happly
    cases hkey : key.column <;> simp [hkey] at happly
  | ok v =>
    rw [Unmarked, String.toList_ofList]
    exact not_mark_of_requiredColumn hvalue

theorem gives_add (value : String) : Database.Gives Unmarked (ValueSet.add value) := by
  let element : Statement := .insert .null (.text (String.ofList (Text.trim value.toList)))
  have hexec : Database.Gives (fun result ↦ ∀ n, result = .ok n → element.Applicable)
      (Database.execAlone element) :=
    Database.gives_transact (fun _ ↦ nofun) fun t ↦
      Database.gives_exec (fun _ ↦ nofun) fun happlicable _ _ _ ↦ happlicable
  apply Action.Meets.andThen hexec
  · exact fun n _ happlicable ↦ gives_pure (unmarked_of_applicable (happlicable n rfl))
  · exact fun e _ _ ↦ unmarked_error e

theorem unmarked_quotedName (name : String) : Unmarked (.ok (quotedName name)) :=
  unmarked_of_head (c := '"') (by simp [quotedName]) (by decide)

theorem unmarked_renderNames (names : List String) : Unmarked (.ok (renderNames names)) :=
  unmarked_of_head (c := '[') (by simp [renderNames]) (by decide)

/-- An action that is answered `nil` when it succeeds. -/
theorem gives_nilReply {α : Type} (p : ServiceAction α) :
    Service.Gives Unmarked (do let _ ← p; return nilReply) :=
  Service.gives_then unmarked_error (fun _ ↦ Service.gives_pure unmarked_nilReply) p

theorem gives_reportOpening (surface : Bool) (outcome : Bank.OpeningOutcome) :
    Service.Gives Unmarked (reportOpening surface outcome) := by
  cases outcome with
  | contended =>
    cases surface with
    | true => exact Service.gives_throw (unmarked_error _)
    | false => exact gives_nilReply _
  | created | alreadyInitialized | noShare => exact Service.gives_pure unmarked_nilReply

/-- No handler has a result that looks like a failure, whatever the state of the service. -/
theorem gives_work (ctx : Context) (body : String) (e : Endpoint) :
    Service.Gives Unmarked (work ctx body e) := by
  cases e with
  | runBatch => exact Service.gives_onStore (gives_run body)
  | readBalances => exact Service.gives_onStore gives_balances
  | createAccounts =>
    unfold work createAccounts
    cases Bank.Opening.parse body with
    | error e => exact Service.gives_throw (unmarked_error e)
    | ok r => exact Service.gives_then unmarked_error (gives_reportOpening _) _
  | transfer =>
    unfold work transfer
    cases Bank.Transfer.parse body with
    | error e => exact Service.gives_throw (unmarked_error e)
    | ok r => exact gives_nilReply _
  | readSet => exact Service.gives_onStore gives_elements
  | addElement => exact Service.gives_onStore (gives_add body)
  | readLeader =>
    apply Service.gives_then unmarked_error
    intro name
    exact Service.gives_pure (unmarked_quotedName _)
  | readMembers =>
    apply Service.gives_then unmarked_error
    intro names
    exact Service.gives_pure (unmarked_renderNames names)
  | removeMember =>
    unfold work removeMember
    exact gives_nilReply _
  | checkReadiness =>
    unfold work checkReadiness
    exact gives_nilReply _
  | readHealth | readMetrics => exact Service.gives_pure unmarked_nilReply

/-- The state of a node is told as a JSON object. -/
theorem unmarked_health (node : String) (uptime : Nat) :
    Unmarked (.ok (Content.health node uptime).body) :=
  unmarked_of_head (c := '\x7b') (by simp [Content.health, Content.json]) (by decide)

/-- The exposition starts with a help line. -/
theorem lines_eq_cons (registry : Metrics.Registry) (uptime : Nat) :
    ∃ name help rest,
      Metrics.Exposition.lines registry uptime = ("# HELP " ++ name ++ " " ++ help) :: rest :=
  ⟨_, _, _, rfl⟩

theorem unmarked_exposition (registry : Metrics.Registry) (uptime : Nat) :
    Unmarked (.ok (Content.plain (Metrics.Exposition.render registry uptime)).body) := by
  obtain ⟨name, help, rest, hlines⟩ := lines_eq_cons registry uptime
  apply unmarked_of_head (c := '#') ?_ (by decide)
  simp [Content.plain, Metrics.Exposition.render, hlines]

end Results

/-! ## Serving -/

/-- The body is no longer than the limit, nor than the request says. -/
def Request.Fits (r : Request) : Prop :=
  r.declaredLength?.getD 0 ≤ maxBodyBytes ∧ r.body.size ≤ r.bodyLimit

/-- What the route and the body of a request say about how it is dealt with. -/
def Request.Dealt (r : Request) : Handling → Prop
  | .unlisted => Route.of r.method r.path = .unknown
  | .oversized => ¬ r.Fits
  | .handled _ => Route.of r.method r.path ≠ .unknown

/-- A body that tells how a request has been dealt with. -/
structure Marked (x : Handling) (body : String) : Prop where
  mark : Reply.errorMark <+: body.toList ↔ x.Fails
  result : ∀ text, x = .handled (.ok text) → body = text ∧ Reply.parse body = .ok text
  failure : ∀ e, x = .handled (.error e) →
    body = Reply.ofError e ∧ Reply.parse body = .error (.other e.message)

theorem marked_handled {result : Except Error String} (hresult : Unmarked result) :
    Marked (.handled result) (Reply.render result) := by
  cases result with
  | ok text =>
    constructor
    case mark => exact iff_of_false hresult (fun ⟨_, hfails⟩ ↦ nomatch hfails)
    case result =>
      rintro _ ⟨⟩
      exact ⟨rfl, Reply.parse_of_unmarked hresult⟩
    case failure => exact fun _ hfails ↦ nomatch hfails
  | error e =>
    constructor
    case mark => exact iff_of_true ⟨e.message.toList, (Reply.toList_ofError e).symm⟩ ⟨e, rfl⟩
    case result => exact fun _ hsucceeds ↦ nomatch hsucceeds
    case failure =>
      rintro _ ⟨⟩
      exact ⟨rfl, Reply.parse_ofError e⟩

theorem marked_unlisted : Marked .unlisted Reply.badRequest where
  mark := iff_of_true (by decide) trivial
  result := nofun
  failure := nofun

theorem marked_oversized {body : String} (hbody : ¬ Reply.errorMark <+: body.toList) :
    Marked .oversized body where
  mark := iff_of_false hbody id
  result := nofun
  failure := nofun

theorem not_mark_declaredTooLong : ¬ Reply.errorMark <+: Content.declaredTooLong.body.toList := by
  decide

section Serving

variable (ctx : Context) {r : Request}

/-- What is said of a request and its content, once it has an endpoint. -/
structure EndpointTells (r : Request) (x : Handling × Content) : Prop where
  listed : x.1 ≠ .unlisted
  read : x.1 = .oversized → ¬ r.Fits
  marked : Marked x.1 x.2.body

theorem endpointTells_handled {result : Except Error String} {content : Content}
    (hmarked : Marked (.handled result) content.body) : EndpointTells r (.handled result, content) where
  listed := nofun
  read := nofun
  marked := hmarked

/-- An endpoint tells by the body of its response what its handler has come to. -/
theorem relies_observeEndpoint (r : Request) (e : Endpoint) :
    (observeEndpoint ctx r e).Relies Service.evaluating (EndpointTells r) () := by
  unfold observeEndpoint
  split
  case isTrue hlong =>
    refine ⟨nofun, fun _ hfits ↦ ?_, marked_oversized (by decide)⟩
    exact absurd hlong.2 (Nat.not_lt.2 hfits.2)
  case isFalse hshort =>
    have hsettles (name : String) (result : Option (Except Error String))
        (hresult : Unmarked (result.getD (.error .deadlineExceeded))) (elapsed : Duration)
        (k : Unit) :
        ((settle name result elapsed).bind fun content ↦
            .done (Handling.handled (result.getD (.error .deadlineExceeded)), content)).Meets
          Service.evaluating (fun _ ↦ True) (fun x _ ↦ EndpointTells r x) k :=
      ⟨trivial, trivial, fun _ _ _ ↦ endpointTells_handled (marked_handled hresult)⟩
    cases hname : e.metricsName with
    | some name =>
      apply Program.Meets.mono (gives_work ctx r.text e)
      · exact fun _ _ elapsed k ↦ hsettles name none (unmarked_error _) elapsed k
      · exact fun result _ hresult elapsed ↦ hsettles name (some result) hresult elapsed ()
    | none =>
      apply Activity.Relies.map
      unfold serveEndpoint
      rw [if_neg hshort, hname]
      cases e with
      | readHealth =>
        refine ⟨trivial, trivial, fun uptime _ _ ↦ ?_⟩
        exact endpointTells_handled (marked_handled (unmarked_health ctx.node uptime))
      | readMetrics =>
        refine ⟨trivial, trivial, fun registry _ _ ↦ ?_⟩
        refine ⟨trivial, trivial, fun uptime _ _ ↦ ?_⟩
        exact endpointTells_handled (marked_handled (unmarked_exposition registry uptime))
      | _ => exact nomatch hname

/-- What the response to a request tells. -/
structure ResponseTells (r : Request) (x : Handling × Response) : Prop where
  dealt : r.Dealt x.1
  marked : r.method ≠ "HEAD" → Marked x.1 x.2.body

theorem EndpointTells.dealt {x : Handling × Content} (hx : EndpointTells r x)
    (hroute : Route.of r.method r.path ≠ .unknown) : r.Dealt x.1 := by
  cases hhandling : x.1 with
  | unlisted => exact absurd hhandling hx.listed
  | oversized => exact hx.read hhandling
  | handled result => exact hroute

theorem method_of_headersOnly {method path : String} {e : Endpoint}
    (hroute : Route.of method path = .headersOnly e) : method = "HEAD" := by
  unfold Route.of at hroute
  split at hroute
  case h_1 => cases hget : Endpoint.ofGet path <;> simp [hget] at hroute
  case h_2 => rfl
  case h_3 => cases hchange : Endpoint.ofChange method path <;> simp [hchange] at hroute

theorem relies_observe (r : Request) :
    (observe ctx r).Relies Service.evaluating (ResponseTells r) () := by
  unfold observe
  split
  case isTrue hlong =>
    have hdealt : r.Dealt .oversized := fun hfits ↦ absurd hlong (Nat.not_lt.2 hfits.1)
    apply Activity.Relies.map
    unfold serve serveContent
    simp only [if_pos hlong]
    cases hroute : Route.of r.method r.path with
    | endpoint | unknown => exact ⟨hdealt, fun _ ↦ marked_oversized not_mark_declaredTooLong⟩
    | headersOnly e => exact ⟨hdealt, fun hmethod ↦ absurd (method_of_headersOnly hroute) hmethod⟩
  case isFalse hshort =>
    cases hroute : Route.of r.method r.path with
    | endpoint e =>
      apply Activity.Relies.map
      apply (relies_observeEndpoint ctx r e).imp
      exact fun x hx ↦ ⟨hx.dealt (by simp [hroute]), fun _ ↦ hx.marked⟩
    | headersOnly e =>
      apply Activity.Relies.map
      apply (relies_observeEndpoint ctx r e).imp
      exact fun x hx ↦ ⟨hx.dealt (by simp [hroute]),
        fun hmethod ↦ absurd (method_of_headersOnly hroute) hmethod⟩
    | unknown =>
      apply Activity.Relies.map
      unfold serve serveContent
      simp only [hroute, if_neg hshort]
      exact ⟨trivial, trivial, fun _ _ _ ↦ ⟨hroute, fun _ ↦ marked_unlisted⟩⟩

end Serving

/-! ## Requests among other tasks -/

/-- Requests that are served and observed, and other tasks on the same service. -/
def observing (ctx : Context) {ι : Type} (others : ι → Activity Service.interface Unit) : Workload where
  Request := Request ⊕ ι
  Result := Sum.elim (fun _ ↦ Handling × Response) fun _ ↦ Unit
  serve
    | .inl r => observe ctx r
    | .inr i => others i

/-- A reply starts with the mark exactly if the handler has failed or there is none, and a client that
reads it gets back what the handler has come to. -/
structure Distinguished {ctx : Context} {ι : Type} {others : ι → Activity Service.interface Unit}
    (p : Pool (observing ctx others)) : Prop where
  /-- Requests are served as they are when they are not observed. -/
  served : ∀ r, (observe ctx r).map Prod.snd = serve ctx r
  replies : ∀ r since turns, ∀ x : Handling × Response,
    (⟨.inl r, since, turns, some x⟩ : Outcome (observing ctx others)) ∈ p.ended →
      r.method ≠ "HEAD" → r.Fits →
        (Reply.errorMark <+: x.2.body.toList ↔
          (∃ e, x.1 = .handled (.error e)) ∨ Route.of r.method r.path = .unknown) ∧
        (∀ text, x.1 = .handled (.ok text) →
          x.2.body = text ∧ Reply.parse x.2.body = .ok text) ∧
        ∀ e, x.1 = .handled (.error e) →
          x.2.body = Reply.ofError e ∧ Reply.parse x.2.body = .error (.other e.message)
  errors : ∀ e, Reply.parse (Reply.ofError e) = .error (.other e.message)

/-- A handler fails, or there is none. -/
theorem fails_iff {r : Request} {x : Handling} (hdealt : r.Dealt x) (hfits : r.Fits) :
    x.Fails ↔ (∃ e, x = .handled (.error e)) ∨ Route.of r.method r.path = .unknown := by
  cases x with
  | unlisted => exact iff_of_true trivial (.inr hdealt)
  | oversized => exact absurd hfits hdealt
  | handled result =>
    have hlisted : Route.of r.method r.path ≠ .unknown := hdealt
    simp [Handling.Fails, hlisted]

section Observing

variable {ctx : Context} {ι : Type} {others : ι → Activity Service.interface Unit}

/-- Whatever the state of the service and whatever tasks share it, replies tell failures from
results. -/
theorem distinguished {service : Service} {p : Pool (observing ctx others)}
    (hreach : p.Reachable service) : Distinguished p where
  served := map_observe ctx
  replies r since turns x hx hmethod hfits := by
    let Result (request : (observing ctx others).Request) :
        (observing ctx others).Result request → Prop :=
      match request with
      | .inl r => ResponseTells r
      | .inr _ => fun _ ↦ True
    have hserve (request : (observing ctx others).Request) :
        ((observing ctx others).serve request).Relies Service.evaluating (Result request) () := by
      cases request with
      | inl r => exact relies_observe ctx r
      | inr i =>
        apply Activity.relies_iff_shows.2
        exact Activity.shows_any (fun _ _ ↦ trivial) (fun _ _ ↦ trivial) (others i) ()
    have htells : ResponseTells r x :=
      (hreach.relies (evaluatingReliance_holds hserve service)).ended _ hx x rfl
    have hmarked := htells.marked hmethod
    exact ⟨hmarked.mark.trans (fails_iff htells.dealt hfits), hmarked.result, hmarked.failure⟩
  errors := Reply.parse_ofError

end Observing

/-- A node whose only peer has the mark of a failure in its name. -/
def impostor : Context :=
  { nodeA with directory := ⟨.ofTable [("10.0.0.2", "Error: b")], 1⟩ }

/-- The peer is asked for by its name, an element and something that only looks like a failure are
added to the set, and a path is asked for that no endpoint has. -/
def disguises : Option (Pool (observing impostor fun _ : Unit ↦ writer)) :=
  let request (method path body : String) : Choice (observing impostor fun _ : Unit ↦ writer) :=
    .start (Sum.inl ⟨method, path, [], body.toUTF8⟩)
  let start : Service :=
    { Service.fresh 5 with
      store := (History.withTable 5).store
      cluster := ⟨[⟨1, "10.0.0.2:1", .voter⟩], some 1, 1⟩ }
  (Pool.idle start).run
    [request "GET" "/members" "", .advance 0, .advance 0, .advance 0,
      request "POST" "/set" " 7 ", .advance 0, .advance 0, .advance 0, .advance 0,
      request "POST" "/set" "Error: 7", .advance 0, .advance 0, .advance 0, .advance 0,
      request "GET" "/nowhere" "", .advance 0]

/-- The replies to the requests that have ended. -/
def replies (p : Pool (observing impostor fun _ : Unit ↦ writer)) : List String :=
  p.ended.filterMap fun
    | ⟨.inl _, _, _, some x⟩ =>
      let x : Handling × Response := x
      some x.2.body
    | _ => none

theorem distinguished_disguises :
    ∃ p, disguises = some p ∧ replies p =
        ["[\"Error: b\"]", "7", Reply.ofError (Store.Fault.mismatch "Error: 7").error,
          Reply.badRequest] ∧
      Distinguished p := by
  have hdisguises : disguises.map replies = some
      ["[\"Error: b\"]", "7", Reply.ofError (Store.Fault.mismatch "Error: 7").error,
        Reply.badRequest] := by
    decide +kernel
  obtain ⟨p, hp, hreplies⟩ := Option.map_eq_some_iff.1 hdisguises
  exact ⟨p, hp, hreplies, distinguished (Pool.Reachable.start.run hp)⟩

end Http

end Turnstile
