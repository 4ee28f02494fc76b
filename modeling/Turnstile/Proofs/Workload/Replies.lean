import Mathlib.Data.List.Infix
import Turnstile.Proofs.Store.Preservation
import Turnstile.Proofs.Store.Statement
import Turnstile.Proofs.Tasks.Transactions
import Turnstile.Proofs.Text.Parts
import Turnstile.Workload.Append

/-!
# What batches report

A batch on given rows appends rows at the end, and each of its reads reports the values that its key
has by then.  The answer is a text, and with the operations of the batch it determines the lists that
it reports.
-/

namespace Turnstile.Workload.Append

open Batch (Operation)
open Database (Runs)
open Store (Query Row Session Statement Ticket Value)

/-- The statement of an operation that appends. -/
def insertion? : Operation → Option Statement
  | .read _ => none
  | .append key value => some (.insert (.text key) (.text value))

/-- The row that an operation appends. -/
def appended? (operation : Operation) : Option Row :=
  (insertion? operation).bind Statement.row?

/-- The key that the name in an operation stands for. -/
def key? (name : String) : Option Int64 :=
  Numeral.readInt64 (Text.trim name.toList)

/-- The values that a key has in rows, in order. -/
def valuesOf (key : Int64) (rows : List Row) : List Int64 :=
  (rows.filter fun r ↦ r.key = some key).map Row.value

/-- The lists that the reads of a batch report on given rows. -/
def lists : List Row → List Operation → List (List Int64)
  | _, [] => []
  | rows, .read name :: rest =>
    ((key? name).elim [] fun key ↦ valuesOf key rows) :: lists rows rest
  | rows, .append name value :: rest =>
    lists (rows ++ (appended? (.append name value)).toList) rest

/-- The names that the reads of a batch are for. -/
def readNames : List Operation → List String
  | [] => []
  | .read name :: rest => name :: readNames rest
  | .append _ _ :: rest => readNames rest

/-- A list of values, as an answer shows it. -/
def spellValues (values : List Int64) : String :=
  "[" ++ String.intercalate " " (values.map Numeral.writeInt64) ++ "]"

/-- The answer to a read that reports a list. -/
def spellRead (name : String) (values : List Int64) : String :=
  "[:r " ++ name ++ " " ++ spellValues values ++ "]"

/-- The answers of a batch whose reads report lists. -/
def spell : List Operation → List (List Int64) → List String
  | .read name :: rest, values :: more => spellRead name values :: spell rest more
  | .append name value :: rest, more => renderAppend name value :: spell rest more
  | _, _ => []

/-- The text answers the batch and reports these lists, one for each read. -/
structure Reports (operations : List Operation) (text : String) (found : List (List Int64)) :
    Prop where
  length : found.length = (readNames operations).length
  text : text = renderBatch (spell operations found)

variable {operations : List Operation} {rows : List Row} {text : String}

theorem appended?_append (name text : String) :
    appended? (.append name text) =
      (key? name).bind fun key ↦ (key? text).map fun value ↦ ⟨some key, value⟩ := by
  unfold appended? insertion? key?
  simp only [Option.bind_some, Statement.row?, Value.column, Value.requiredColumn]
  cases Numeral.readInt64 (Text.trim name.toList) with
  | none => rfl
  | some key => cases Numeral.readInt64 (Text.trim text.toList) <;> rfl

theorem renderRead_eq_spellRead (name : String) (rows : List Row) :
    renderRead name rows = spellRead name (rows.map Row.value) := by
  unfold renderRead renderValues spellRead spellValues
  rw [List.map_map]
  rfl

theorem isSome_key?_of_select {name : String} {selected : List Row}
    (hselect : (Query.byKey (.text name)).select rows = .ok selected) : (key? name).isSome := by
  unfold key?
  simp only [Query.select, Value.column] at hselect
  cases hkey : Numeral.readInt64 (Text.trim name.toList) with
  | none =>
    rw [hkey] at hselect
    cases hselect
  | some key => rfl

/-- A read finds the values of its key, which is a numeral. -/
theorem renderRead_of_select {name : String} {selected : List Row}
    (hselect : (Query.byKey (.text name)).select rows = .ok selected) :
    renderRead name selected = spellRead name ((key? name).elim [] fun key ↦ valuesOf key rows) := by
  simp only [Query.select, Value.column] at hselect
  rw [renderRead_eq_spellRead]
  unfold key?
  cases hkey : Numeral.readInt64 (Text.trim name.toList) with
  | none =>
    rw [hkey] at hselect
    cases hselect
  | some key =>
    rw [hkey] at hselect
    rw [← Except.ok.inj hselect]
    rfl

theorem length_lists (rows : List Row) (operations : List Operation) :
    (lists rows operations).length = (readNames operations).length := by
  induction operations generalizing rows with
  | nil => rfl
  | cons operation rest ih =>
    cases operation with
    | read name => exact congrArg (· + 1) (ih rows)
    | append name value => exact ih _

/-! ## Running a batch -/

/-- Operations insert their rows and report what they find on the way. -/
theorem runs_runOperations {During : Deeds → Prop} {d : Deeds} {t : Ticket} {σ : Session}
    (hduring : During d) (operations : List Operation) (answers : List String)
    (hidle : σ.waiting = none) :
    Runs During d t
      (fun text σ' ↦ σ'.base = σ.base ∧ σ'.begun = σ.begun ∧
        σ'.done = σ.done ++ operations.filterMap insertion? ∧
        (∀ stmt ∈ operations.filterMap insertion?, stmt.row?.isSome) ∧
        (∀ name ∈ readNames operations, (key? name).isSome) ∧
        text = renderBatch (answers.reverse ++
          spell operations (lists (σ.view.getD []) operations)))
      (runOperations t answers operations) σ := by
  induction operations generalizing σ answers with
  | nil =>
    apply Database.runs_pure hidle
    refine ⟨rfl, rfl, (List.append_nil _).symm, fun stmt hmem ↦ absurd hmem List.not_mem_nil,
      fun name hmem ↦ absurd hmem List.not_mem_nil, ?_⟩
    exact congrArg renderBatch (List.append_nil _).symm
  | cons operation rest ih =>
    cases operation with
    | read name =>
      apply Runs.bind
      apply Runs.bind
      apply Database.runs_query hduring hidle
      intro rows selected hview hselect hidle'
      refine Database.runs_pure hidle' fun _ ↦ ?_
      apply (ih (renderRead name selected :: answers) hidle).imp
      rintro text σ' ⟨hbase, hbegun, hdone, hrows, hnames, htext⟩
      have hkey : (key? name).isSome := isSome_key?_of_select hselect
      refine ⟨hbase, hbegun, hdone, hrows, List.forall_mem_cons.2 ⟨hkey, hnames⟩, ?_⟩
      rw [htext, hview, List.reverse_cons, List.append_assoc, renderRead_of_select hselect]
      rfl
    | append name value =>
      apply Runs.bind
      apply Runs.bind
      apply Database.runs_exec hduring hidle
      intro rows after n hview happly hidle'
      refine Database.runs_pure hidle' fun _ ↦ ?_
      apply (ih (renderAppend name value :: answers) hidle').imp
      rintro text σ' ⟨hbase, hbegun, hdone, hrows, hnames, htext⟩
      obtain ⟨row, hrow, hafter⟩ := Store.apply_of_inserts rfl happly
      have happended : appended? (.append name value) = some row := hrow
      refine ⟨hbase, hbegun, ?_, ?_, hnames, ?_⟩
      · rw [hdone]
        exact List.append_assoc ..
      · intro stmt hmem
        obtain rfl | hrest := List.mem_cons.1 hmem
        · rw [hrow]
          rfl
        · exact hrows stmt hrest
      · rw [htext, Session.view_add hview happly, hview, hafter, List.reverse_cons,
          List.append_assoc]
        simp only [Option.getD_some, lists, happended, Option.toList_some]
        rfl

/-! ## Lists that are reported -/

theorem filterMap_appended?_cons (operation : Operation) (rest : List Operation) :
    (operation :: rest).filterMap appended? =
      (appended? operation).toList ++ rest.filterMap appended? := by
  rw [List.filterMap_cons]
  cases appended? operation <;> rfl

/-- A list that is reported is what its key has once some of the batch's own rows are appended. -/
theorem prefix_of_mem_lists {name : String} {values : List Int64} {key : Int64} {final : List Row}
    (hmem : (name, values) ∈ (readNames operations).zip (lists rows operations))
    (hkey : key? name = some key)
    (hfinal : rows ++ operations.filterMap appended? <+: final) :
    values <+: valuesOf key final := by
  induction operations generalizing rows with
  | nil => exact absurd hmem List.not_mem_nil
  | cons operation rest ih =>
    cases operation with
    | read name' =>
      obtain heq | hrest := List.mem_cons.1 hmem
      · obtain ⟨rfl, rfl⟩ := Prod.mk.inj heq
        rw [hkey]
        have hrows : rows <+: final := (List.prefix_append _ _).trans hfinal
        exact (hrows.filter _).map _
      · exact ih hrest hfinal
    | append name' value =>
      apply ih hmem
      rw [filterMap_appended?_cons, ← List.append_assoc] at hfinal
      exact hfinal

/-! ## Texts that determine their lists -/

/-- The numerals of a list with blanks between them. -/
def spaced (values : List Int64) : List Char :=
  [' '].intercalate (values.map fun v ↦ (Numeral.writeInt64 v).toList)

theorem notMem_intercalate {c : Char} {sep : List Char} {words : List (List Char)} (hsep : c ∉ sep)
    (hwords : ∀ word ∈ words, c ∉ word) : c ∉ sep.intercalate words := by
  have hothers : ∀ c' ∈ sep.intercalate words, c' ≠ c :=
    Text.forall_mem_intercalate (fun _ hmem heq ↦ hsep (heq ▸ hmem))
      fun word hword _ hmem heq ↦ hwords word hword (heq ▸ hmem)
  exact fun hmem ↦ hothers c hmem rfl

theorem notMem_write {c : Char} (hdigit : c.isDigit = false) (hsign : c ≠ '-') (v : Int64) :
    c ∉ (Numeral.writeInt64 v).toList := by
  intro hmem
  rcases Numeral.isDigit_or_eq_of_mem_write hmem with h | h
  · rw [hdigit] at h
    exact Bool.false_ne_true h
  · exact hsign h

theorem notMem_spaced (values : List Int64) : ']' ∉ spaced values := by
  apply notMem_intercalate (by decide)
  intro word hword
  obtain ⟨v, _, rfl⟩ := List.mem_map.1 hword
  exact notMem_write (by decide) (by decide) v

/-- Numerals have no blanks, so a list is what it is split into at the blanks. -/
theorem splitOn_spaced {values : List Int64} (hne : values ≠ []) :
    (spaced values).splitOn ' ' = values.map fun v ↦ (Numeral.writeInt64 v).toList := by
  apply List.splitOn_intercalate
  · intro word hword
    obtain ⟨v, _, rfl⟩ := List.mem_map.1 hword
    exact notMem_write (by decide) (by decide) v
  · exact fun hnil ↦ hne (List.map_eq_nil_iff.1 hnil)

theorem spaced_eq_nil {values : List Int64} (hnil : spaced values = []) : values = [] := by
  cases values with
  | nil => rfl
  | cons v rest =>
    have hsplit := splitOn_spaced (List.cons_ne_nil v rest)
    rw [hnil, List.splitOn_nil] at hsplit
    have hword : [] = (Numeral.writeInt64 v).toList := (List.cons.inj hsplit).1
    exact absurd hword.symm (Numeral.write_ne_nil _)

theorem spaced_injective {values values' : List Int64} (heq : spaced values = spaced values') :
    values = values' := by
  by_cases hvalues : values = []
  · subst hvalues
    exact (spaced_eq_nil heq.symm).symm
  · have hvalues' : values' ≠ [] := by
      rintro rfl
      exact hvalues (spaced_eq_nil heq)
    have hmap := splitOn_spaced hvalues
    rw [heq, splitOn_spaced hvalues'] at hmap
    have hinjective : Function.Injective fun v : Int64 ↦ (Numeral.writeInt64 v).toList :=
      fun v w h ↦ Numeral.writeInt64_injective (String.toList_inj.1 h)
    exact (List.map_injective_iff.2 hinjective hmap).symm

/-- What stands before the first of a character is determined. -/
theorem append_cons_inj {c : Char} {l l' s s' : List Char} (hl : c ∉ l) (hl' : c ∉ l')
    (heq : l ++ c :: s = l' ++ c :: s') : l = l' ∧ s = s' := by
  induction l generalizing l' with
  | nil =>
    cases l' with
    | nil => exact ⟨rfl, (List.cons.inj heq).2⟩
    | cons a rest =>
      obtain rfl : c = a := (List.cons.inj heq).1
      exact absurd List.mem_cons_self hl'
  | cons a rest ih =>
    cases l' with
    | nil =>
      obtain rfl : a = c := (List.cons.inj heq).1
      exact absurd List.mem_cons_self hl
    | cons a' rest' =>
      obtain ⟨rfl, hrest⟩ := List.cons.inj heq
      obtain ⟨rfl, hs⟩ := ih (fun h ↦ hl (List.mem_cons_of_mem a h))
        (fun h ↦ hl' (List.mem_cons_of_mem a h)) hrest
      exact ⟨rfl, hs⟩

/-- The list ends with its bracket, so what follows an answer does not blur it. -/
theorem spellRead_append_inj {name : String} {values values' : List Int64} {s s' : List Char}
    (heq : (spellRead name values).toList ++ s = (spellRead name values').toList ++ s') :
    values = values' ∧ s = s' := by
  have hbodies : spaced values ++ ']' :: ([']'] ++ s) = spaced values' ++ ']' :: ([']'] ++ s') := by
    simp only [spellRead, spellValues, String.toList_append, String.toList_intercalate, List.map_map,
      List.append_assoc] at heq
    exact List.append_cancel_left (List.append_cancel_left (List.append_cancel_left
      (List.append_cancel_left heq)))
  obtain ⟨hvalues, hrest⟩ := append_cons_inj (notMem_spaced values) (notMem_spaced values') hbodies
  exact ⟨spaced_injective hvalues, List.append_cancel_left hrest⟩

theorem spell_ne_nil {operation : Operation} {rest : List Operation} {found : List (List Int64)}
    (hlength : found.length = (readNames (operation :: rest)).length) :
    spell (operation :: rest) found ≠ [] := by
  cases operation with
  | append name value => exact List.cons_ne_nil _ _
  | read name =>
    cases found with
    | nil => simp [readNames] at hlength
    | cons values more => exact List.cons_ne_nil _ _

/-- The text after the first answer of some. -/
def textAfter : List String → List Char
  | [] => []
  | answers => ' ' :: (String.intercalate " " answers).toList

theorem intercalate_cons (answer : String) (answers : List String) :
    (String.intercalate " " (answer :: answers)).toList = answer.toList ++ textAfter answers := by
  cases answers with
  | nil =>
    rw [String.intercalate_singleton]
    exact (List.append_nil _).symm
  | cons next more =>
    rw [String.intercalate_cons_cons]
    simp [textAfter]

theorem textAfter_injective {answers answers' : List String} (hne : answers = [] ↔ answers' = [])
    (heq : textAfter answers = textAfter answers') :
    (String.intercalate " " answers).toList = (String.intercalate " " answers').toList := by
  cases answers with
  | nil => rw [hne.1 rfl]
  | cons a rest =>
    cases answers' with
    | nil => exact absurd (hne.2 rfl) (List.cons_ne_nil a rest)
    | cons a' rest' => exact (List.cons.inj heq).2

theorem spell_injective {found found' : List (List Int64)}
    (hlength : found.length = (readNames operations).length)
    (hlength' : found'.length = (readNames operations).length)
    (heq : (String.intercalate " " (spell operations found)).toList =
      (String.intercalate " " (spell operations found')).toList) : found = found' := by
  induction operations generalizing found found' with
  | nil =>
    rw [List.length_eq_zero_iff.1 hlength, List.length_eq_zero_iff.1 hlength']
  | cons operation rest ih =>
    have hempty {more more' : List (List Int64)} (hmore : more.length = (readNames rest).length)
        (hmore' : more'.length = (readNames rest).length) :
        spell rest more = [] ↔ spell rest more' = [] := by
      cases rest with
      | nil => exact ⟨fun _ ↦ rfl, fun _ ↦ rfl⟩
      | cons next others =>
        exact ⟨fun h ↦ absurd h (spell_ne_nil hmore), fun h ↦ absurd h (spell_ne_nil hmore')⟩
    cases operation with
    | append name value =>
      have hcons (more : List (List Int64)) : spell (.append name value :: rest) more =
          renderAppend name value :: spell rest more := rfl
      rw [hcons, hcons, intercalate_cons, intercalate_cons] at heq
      have hrest := List.append_cancel_left heq
      exact ih hlength hlength' (textAfter_injective (hempty hlength hlength') hrest)
    | read name =>
      cases found with
      | nil => simp [readNames] at hlength
      | cons values more =>
        cases found' with
        | nil => simp [readNames] at hlength'
        | cons values' more' =>
          have hmore : more.length = (readNames rest).length := by simpa [readNames] using hlength
          have hmore' : more'.length = (readNames rest).length := by
            simpa [readNames] using hlength'
          have hcons (values : List Int64) (more : List (List Int64)) :
              spell (.read name :: rest) (values :: more) =
                spellRead name values :: spell rest more := rfl
          rw [hcons, hcons, intercalate_cons, intercalate_cons] at heq
          obtain ⟨rfl, hrest⟩ := spellRead_append_inj heq
          rw [ih hmore hmore' (textAfter_injective (hempty hmore hmore') hrest)]

/-- A text that answers a batch reports one choice of lists only. -/
theorem Reports.unique {found found' : List (List Int64)} (h : Reports operations text found)
    (h' : Reports operations text found') : found = found' := by
  apply spell_injective h.length h'.length
  have heq := congrArg String.toList (h.text.symm.trans h'.text)
  simp only [renderBatch, String.toList_append] at heq
  exact List.append_cancel_left (List.append_cancel_right heq)

end Turnstile.Workload.Append
