import Turnstile.Proofs.Batch
import Turnstile.Proofs.Http.Effects
import Turnstile.Proofs.Tasks.Tracing
import Turnstile.Proofs.Workload.Balances
import Turnstile.Workload.ValueSet

/-!
# Data in replies

The replies of batches and of readings are data literals.  Read as such, they give back the integers
that the words of a batch denote and the values of the rows that its transaction has seen, or the rows
that a reading has seen, in their order.  Keys and values are echoed as they were written, so this needs
that the store has taken every one of them for an integer.
-/

namespace Turnstile.Workload

open Batch (Operation)
open Edn (Form Literals)
open Numeral (Denotes)
open Store (Row Session)

/-! ## Answers of batches -/

namespace Append

/-- The data in the answers of a batch on given rows: of each operation its name, the integers that its
tokens denote, and the values that it reads. -/
inductive Data : List Row → List Operation → List Form → Prop
  | nil (rows : List Row) : Data rows [] []
  | read {rows : List Row} {name : String} {key : Int64} {rest : List Operation} {forms : List Form}
      (hkey : Denotes name.toList key.toInt) (hrest : Data rows rest forms) :
      Data rows (.read name :: rest)
        (.vector [.keyword "r", .int key, .vector ((valuesOf key rows).map .int)] :: forms)
  | append {rows : List Row} {name text : String} {key value : Int64} {rest : List Operation}
      {forms : List Form} (hkey : Denotes name.toList key.toInt)
      (hvalue : Denotes text.toList value.toInt)
      (hrest : Data (rows ++ [⟨some key, value⟩]) rest forms) :
      Data rows (.append name text :: rest)
        (.vector [.keyword "append", .int key, .int value] :: forms)

/-- A token that the store takes for an integer denotes it. -/
theorem key?_eq_some {token : String} {key : Int64} (hword : Text.IsWord token.toList) :
    key? token = some key ↔ Denotes token.toList key.toInt := by
  unfold key?
  rw [hword.trim, Numeral.readInt64_eq_some]

/-- Where the store has taken every token for an integer, a batch has its data. -/
theorem exists_data {operations : List Operation} (hworded : ∀ o ∈ operations, o.Worded)
    (hrows : ∀ stmt ∈ operations.filterMap insertion?, stmt.row?.isSome)
    (hnames : ∀ name ∈ readNames operations, (key? name).isSome) (rows : List Row) :
    ∃ forms, Data rows operations forms := by
  induction operations generalizing rows with
  | nil => exact ⟨[], .nil rows⟩
  | cons operation rest ih =>
    obtain ⟨hword, hrest⟩ := List.forall_mem_cons.1 hworded
    cases operation with
    | read name =>
      obtain ⟨hname, hmore⟩ := List.forall_mem_cons.1 hnames
      obtain ⟨key, hkey⟩ := Option.isSome_iff_exists.1 hname
      obtain ⟨forms, hdata⟩ := ih hrest hrows hmore rows
      have hdenotes := (key?_eq_some (hword name List.mem_cons_self)).1 hkey
      exact ⟨_, .read hdenotes hdata⟩
    | append name text =>
      obtain ⟨hrow, hmore⟩ := List.forall_mem_cons.1 hrows
      obtain ⟨row, happended⟩ := Option.isSome_iff_exists.1 hrow
      obtain ⟨key, hkey, hvalue⟩ := Option.bind_eq_some_iff.1
        ((appended?_append name text).symm.trans happended)
      obtain ⟨value, hvalue, _⟩ := Option.map_eq_some_iff.1 hvalue
      obtain ⟨forms, hdata⟩ := ih hrest hmore hnames (rows ++ [⟨some key, value⟩])
      have hname := (key?_eq_some (hword name (by simp [Operation.tokens]))).1 hkey
      have htext := (key?_eq_some (hword text (by simp [Operation.tokens]))).1 hvalue
      exact ⟨_, .append hname htext hdata⟩

theorem literals_spellValues (values : List Int64) :
    Literals 1 (spellValues values).toList [.vector (values.map .int)] :=
  .vector (Literals.integers values 0)

theorem literals_spellRead {name : String} {key : Int64} (hkey : Denotes name.toList key.toInt)
    (values : List Int64) :
    Literals 2 (spellRead name values).toList
      [.vector [.keyword "r", .int key, .vector (values.map .int)]] := by
  have hparts : spellRead name values =
      "[" ++ String.intercalate " " [":r", name, spellValues values] ++ "]" := by
    apply String.toList_inj.1
    simp [spellRead]
  have hname : Literals 1 ":r".toList [.keyword "r"] :=
    .keyword rfl (by decide) (by decide) 1
  rw [hparts]
  exact .vector (.cons hname (.cons (.int hkey 1) (.cons (literals_spellValues values) .nil)))

theorem literals_renderAppend {name text : String} {key value : Int64}
    (hkey : Denotes name.toList key.toInt) (hvalue : Denotes text.toList value.toInt) :
    Literals 2 (renderAppend name text).toList [.vector [.keyword "append", .int key, .int value]] := by
  have hparts : renderAppend name text =
      "[" ++ String.intercalate " " [":append", name, text] ++ "]" := by
    apply String.toList_inj.1
    simp [renderAppend]
  have hname : Literals 1 ":append".toList [.keyword "append"] :=
    .keyword rfl (by decide) (by decide) 1
  rw [hparts]
  exact .vector (.cons hname (.cons (.int hkey 1) (.cons (.int hvalue 1) .nil)))

/-- The answers of a batch write its data. -/
theorem Data.literals {rows : List Row} {operations : List Operation} {forms : List Form}
    (hdata : Data rows operations forms) :
    List.Forall₂ (fun answer form ↦ Literals 2 answer.toList [form])
      (spell operations (lists rows operations)) forms := by
  induction hdata with
  | nil => exact .nil
  | @read rows name key rest forms hkey hrest ih =>
    have hfound : key? name = some key := (key?_eq_some hkey.isWord).2 hkey
    simp only [lists, spell, hfound, Option.elim_some]
    exact .cons (literals_spellRead hkey _) ih
  | @append rows name text key value rest forms hkey hvalue hrest ih =>
    have hrow : appended? (.append name text) = some ⟨some key, value⟩ := by
      rw [appended?_append, (key?_eq_some hkey.isWord).2 hkey, (key?_eq_some hvalue.isWord).2 hvalue]
      rfl
    simp only [lists, spell, hrow, Option.toList_some]
    exact .cons (literals_renderAppend hkey hvalue) ih

end Append

/-! ## Questions -/

/-- What is asked of the data in the store. -/
inductive Question where
  /-- A batch, as a document. -/
  | batch (document : String)
  /-- All accounts with their balances. -/
  | balances
  /-- All elements of the set. -/
  | elements

namespace Question

def action : Question → Database.DbAction String
  | batch document => Append.run document
  | balances => Bank.balances
  | elements => ValueSet.elements

/-- The reply is read as the data that the question has found on the rows. -/
def Decodes : Question → List Row → String → Prop
  | batch document, rows, reply => ∃ operations forms, Batch.parse document = .ok operations ∧
      Append.Data rows operations forms ∧ Edn.read reply = .ok (.vector forms)
  | balances, rows, reply =>
      Edn.read reply = .ok (.map (rows.map fun r ↦ (Bank.keyForm r.key, .int r.value)))
  | elements, rows, reply => Edn.read reply = .ok (.vector (rows.map fun r ↦ .int r.value))

variable {rows : List Row}

theorem decodes_batch {document : String} {operations : List Operation}
    (hparse : Batch.parse document = .ok operations)
    (hrows : ∀ stmt ∈ operations.filterMap Append.insertion?, stmt.row?.isSome)
    (hnames : ∀ name ∈ Append.readNames operations, (Append.key? name).isSome) :
    (batch document).Decodes rows
      (Append.renderBatch (Append.spell operations (Append.lists rows operations))) := by
  obtain ⟨forms, hdata⟩ := Append.exists_data (Batch.worded_of_parse hparse) hrows hnames rows
  have hliterals := Literals.vector hdata.literals
  exact ⟨operations, forms, hparse, hdata, hliterals.read (by decide)⟩

theorem decodes_balances (rows : List Row) : balances.Decodes rows (Bank.renderBalances rows) :=
  Bank.read_renderBalances rows

theorem decodes_elements (rows : List Row) :
    elements.Decodes rows (ValueSet.renderElements rows) := by
  have hliterals := Append.literals_spellValues (rows.map Row.value)
  rw [Append.spellValues, List.map_map, List.map_map] at hliterals
  exact hliterals.read (by decide)

/-- What a question has committed when it has been answered: one of its transactions started from the
rows that the reply shows. -/
def Shown (q : Question) (result : Except Error String) (s : Standing) : Prop :=
  s.use = none ∧ ∀ reply, result = .ok reply → ∃ σ ∈ s.deeds.committed, q.Decodes σ.rows reply

theorem shown_error (q : Question) (e : Error) (d : Deeds) : q.Shown (.error e) ⟨d, none⟩ :=
  ⟨rfl, nofun⟩

theorem shown_commit {q : Question} {reply : String} {d : Deeds} {σ : Session}
    (hdecodes : q.Decodes σ.rows reply) : q.Shown (.ok reply) ⟨d.commit σ, none⟩ := by
  refine ⟨rfl, fun reply' heq ↦ ⟨σ, ?_, ?_⟩⟩
  · exact List.mem_append_right d.committed List.mem_cons_self
  · exact Except.ok.inj heq ▸ hdecodes

/-- A question that reads all rows and writes them down. -/
theorem meets_readAll {q : Question} {write : List Row → String}
    (hdecodes : ∀ rows, q.Decodes rows (write rows)) {During : Deeds → Prop} {d : Deeds}
    (hduring : During d) :
    Database.Meets During q.Shown (Database.queryAlone .all >>= fun rows ↦ pure (write rows))
      ⟨d, none⟩ := by
  apply Database.Meets.bind
  apply Database.meets_queryAlone hduring (fun e ↦ shown_error _ e d)
  intro σ rows selected _ _ hbase hselect
  obtain rfl : rows = selected := Except.ok.inj hselect
  have hrows : σ.rows = rows := congrArg (Option.getD · []) hbase
  exact shown_commit (hrows ▸ hdecodes rows)

theorem meets_action (q : Question) {During : Deeds → Prop} {d : Deeds} (hduring : During d) :
    Database.Meets During q.Shown q.action ⟨d, none⟩ := by
  cases q with
  | batch document =>
    simp only [action, Append.run]
    cases hparse : Batch.parse document with
    | error e => exact (batch document).shown_error e d
    | ok operations =>
      apply Database.meets_transact hduring (fun e ↦ shown_error _ e d)
      intro t σ _ hdone hidle
      apply (Append.runs_runOperations hduring operations [] hidle).imp
      rintro text σ' ⟨hbase, _, _, hrows, hnames, htext⟩
      have hview : σ.view.getD [] = σ'.rows := by
        rw [Session.rows, hbase, Session.view_of_done hdone]
      rw [hview] at htext
      rw [htext]
      exact shown_commit (decodes_batch hparse hrows hnames)
  | balances => exact meets_readAll decodes_balances hduring
  | elements => exact meets_readAll decodes_elements hduring

end Question

/-! ## Questions among other tasks -/

/-- Questions, and other tasks on the same service. -/
def questions {ι : Type} (others : ι → Activity Service.interface Unit) : Workload where
  Request := Question ⊕ ι
  Result := Sum.elim (fun _ ↦ Except Error String) fun _ ↦ Unit
  serve
    | .inl q => .run (Service.onStore q.action).run
    | .inr i => others i

/-- Every reply is read as data that was committed when the question began its transaction. -/
def Decoded {ι : Type} {others : ι → Activity Service.interface Unit} (p : Pool (questions others)) :
    Prop :=
  ∀ q since turns, ∀ reply : String,
    (⟨.inl q, since, turns, some (Except.ok reply)⟩ : Outcome (questions others)) ∈ p.ended →
      ∃ turn ∈ turns, Begun turn ∧ q.Decodes turn.1.store.rows reply

section Questions

variable {ι : Type} {others : ι → Activity Service.interface Unit}

/-- Nothing is promised of what the tasks do, save that they keep to the protocol. -/
def anyDeeds (W : Workload) : Contract W where
  During _ _ := True
  After _ _ _ := True

theorem questions_honored (hlawful : ∀ i, Http.Lawful (others i)) :
    (anyDeeds (questions others)).Honored := by
  intro request earliest
  cases request with
  | inl q =>
    have hduring : (anyDeeds (questions others)).During (.inl q) (.start earliest) := trivial
    exact Program.Meets.imp (Service.meets_onStore (q.meets_action hduring))
      fun _ _ hshown ↦ ⟨hshown.1, trivial⟩
  | inr i => exact hlawful i earliest

/-- What the reply to a question tells of its turns. -/
def Replies : (r : (questions others).Request) → (questions others).Result r →
    List (Service × Service) → Prop
  | .inl q, result, turns =>
    let result : Except Error String := result
    ∀ reply, result = .ok reply → ∃ turn ∈ turns, Begun turn ∧ q.Decodes turn.1.store.rows reply
  | .inr _, _, _ => True

theorem shows_replies (request : (questions others).Request) :
    ((questions others).serve request).Shows (remembering Isolated) (Replies request) [] := by
  cases request with
  | inl q =>
    have hmeets : Database.Meets (fun _ ↦ True) q.Shown q.action ⟨.start 0, none⟩ :=
      q.meets_action trivial
    apply Program.Meets.imp (Service.traced_onStore hmeets (.start 0))
    rintro result turns ⟨s, hshown, htraced⟩ reply hreply
    obtain ⟨σ, hσ, hdecodes⟩ := hshown.2 reply hreply
    obtain ⟨⟨turn, hturn, hbegins⟩, _⟩ := htraced.committed σ hσ
    exact ⟨turn, hturn, hbegins.toBegun, hbegins.rows ▸ hdecodes⟩
  | inr i => exact Activity.shows_any (fun _ _ ↦ trivial) (fun _ _ ↦ trivial) (others i) []

/-- Whatever tasks share the store, a batch, a reading of all balances and a reading of the set are
answered, if they succeed, by a text that is read as exactly the data they have found. -/
theorem decoded (hlawful : ∀ i, Http.Lawful (others i)) {busyTimeout : Nat} {h₀ : Store.History}
    (hhistory : h₀.Reachable busyTimeout) {service : Service} (hstore : h₀.store = service.store)
    {p : Pool (questions others)} (hreach : p.Reachable service) : Decoded p := by
  intro q since turns reply ho
  have hreplies : @Replies ι others (.inl q) (Except.ok reply) turns :=
    hreach.remembers shows_replies
      (fun p task c hreach htask hcall ↦
        hreach.isolated (questions_honored hlawful) hhistory.consistent hstore htask hcall)
      ho rfl
  exact hreplies reply rfl

end Questions

/-- A task that adds an element to the set. -/
def adder : Activity Service.interface Unit :=
  .run ((Service.onStore (ValueSet.add " -3")).run.bind fun _ ↦ .done ())

theorem lawful_adder : Http.Lawful adder := by
  apply Http.lawful_onStore
  intro earliest
  apply Database.Meets.bind
  apply Database.meets_execAlone trivial
  · exact fun e ↦ rfl
  · exact fun σ rows after n _ _ _ _ ↦ rfl

/-- An element is added.  A batch spells one key in three ways, and while it runs all balances are
read; they are read again after it, and so is the set. -/
def survey : Option (Pool (questions fun _ : Unit ↦ adder)) :=
  let ask (q : Question) : Choice (questions fun _ : Unit ↦ adder) := .start (Sum.inl q)
  (Pool.idle { Service.fresh 5 with store := (Store.History.withTable 5).store }).run
    [.start (Sum.inr ()), .advance 0, .advance 0, .advance 0,
      ask (.batch "[[:append +007 -0][:append 7 -9223372036854775808] [:r 07 nil]]"),
      .advance 0, .advance 0, .advance 0, ask .balances, .advance 1, .advance 1, .advance 1,
      .advance 0, .advance 0, ask .balances, .advance 0, .advance 0, .advance 0,
      ask .elements, .advance 0, .advance 0, .advance 0]

/-- The replies that questions have been answered with. -/
def replies (p : Pool (questions fun _ : Unit ↦ adder)) : List String :=
  p.ended.filterMap fun
    | ⟨.inl _, _, _, some (Except.ok reply)⟩ =>
      let reply : String := reply
      some reply
    | _ => none

theorem decoded_survey :
    ∃ p, survey = some p ∧ replies p =
      ["\x7bnil -3\x7d",
        "[[:append +007 -0] [:append 7 -9223372036854775808] [:r 07 [0 -9223372036854775808]]]",
        "\x7bnil -3, 7 0, 7 -9223372036854775808\x7d", "[-3 0 -9223372036854775808]"] ∧
      Decoded p := by
  have hsurvey : survey.map replies = some
      ["\x7bnil -3\x7d",
        "[[:append +007 -0] [:append 7 -9223372036854775808] [:r 07 [0 -9223372036854775808]]]",
        "\x7bnil -3, 7 0, 7 -9223372036854775808\x7d", "[-3 0 -9223372036854775808]"] := by
    decide +kernel
  obtain ⟨p, hp, hreplies⟩ := Option.map_eq_some_iff.1 hsurvey
  have hdecoded : Decoded p :=
    decoded (fun _ ↦ lawful_adder) (Store.History.Reachable.withTable 5) rfl
      (Pool.Reachable.start.run hp)
  exact ⟨p, hp, hreplies, hdecoded⟩

end Turnstile.Workload
