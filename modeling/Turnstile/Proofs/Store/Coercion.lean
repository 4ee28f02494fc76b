import Mathlib.Tactic.TFAE
import Turnstile.Proofs.Edn.Recognition
import Turnstile.Proofs.Store.Statement

/-!
# One meaning for integers

The store and the reader of literals take the same tokens for integers: an optional sign with one or
more digits, if what they denote has 64 bits.  So an account id, the key of a batch and a value of the
set that are written alike are one integer.  A written integer is read back by both, with any white
space around it.
-/

namespace Turnstile

open Numeral (Denotes)

variable {v : Int64}

/-! ## Tokens as literals -/

namespace Edn

/-- A token on its own is one atom. -/
theorem readChars_token {word : List Char} (hne : word ≠ []) (hplain : ∀ c ∈ word, Plain c) :
    readChars word = atomForm (String.ofList word) := by
  have hatom := tokenize_atom hne (fun c hc ↦ classify_eq_plain.2 (hplain c hc))
    (ends_iff_breaks.2 .nil)
  have hword : tokenize word = some [.atom (String.ofList word)] := by
    rwa [List.append_nil] at hatom
  rw [readChars, hword]
  simp only [Reading.run, Reading.step]
  cases atomForm (String.ofList word) <;> rfl

theorem atomForm_eq_int {word : List Char} (hne : word ≠ []) (hplain : ∀ c ∈ word, Plain c) :
    atomForm (String.ofList word) = .ok (.int v) ↔ Denotes word v.toInt := by
  constructor
  · intro hform
    cases Atom.of_form hne hplain hform with
    | reserved hreserved => cases hreserved
    | int hdenotes => exact hdenotes
  · exact atomForm_of_denotes

/-- A token is read as an integer exactly if it denotes it. -/
theorem read_eq_int {token : String} (hplain : ∀ c ∈ token.toList, Plain c) :
    read token = .ok (.int v) ↔ Denotes token.toList v.toInt := by
  constructor
  · intro hread
    by_cases hne : token.toList = []
    · obtain rfl : token = "" := String.toList_eq_nil_iff.1 hne
      cases hread
    · rw [← atomForm_eq_int hne hplain, ← readChars_token hne hplain]
      unfold read at hread
      split at hread
      case h_1 heq => rw [heq, Except.ok.inj hread]
      case h_2 => cases hread
  · exact fun hdenotes ↦ (Literals.int hdenotes 0).read (Nat.zero_le _)

theorem Breaks.of_separates {text : List Char} (htext : ∀ c ∈ text, Separates c) : Breaks text :=
  fun c hc hplain ↦ hplain.separates (htext c (List.mem_of_mem_head? hc))

/-- A numeral is read among white space and commas. -/
theorem read_numeral {pre s post : String} (hdenotes : Denotes s.toList v.toInt)
    (hpre : ∀ c ∈ pre.toList, Separates c) (hpost : ∀ c ∈ post.toList, Separates c) :
    read (pre ++ s ++ post) = .ok (.int v) := by
  have hs : Literals 0 (pre.toList ++ s.toList) [.int v] := (Literals.int hdenotes 0).gaps hpre
  have hafter : Literals 0 post.toList [] := by
    have hgaps := (Literals.nil 0).gaps hpost
    rwa [List.append_nil] at hgaps
  have hall := hs.append hafter (.of_separates hpost)
  rw [List.append_nil, ← String.toList_append, ← String.toList_append] at hall
  exact hall.read (Nat.zero_le _)

end Edn

/-! ## Texts as parameters -/

namespace Store

/-- A key selects the rows of an integer exactly if it is taken for it. -/
theorem select_eq_iff {key : Value} :
    (∀ rows, (Query.byKey key).select rows = (Query.byKey (.integer v)).select rows) ↔
      key.column = .ok (some v) := by
  constructor
  · intro hselect
    -- A row with the integer as its key is selected by no other key.
    have hrow := hselect [⟨some v, 0⟩]
    simp only [Query.select, Value.column_integer] at hrow
    split at hrow
    case h_1 => simp at hrow
    case h_2 => simp at hrow
    case h_3 k hkey =>
      have hsame : v = k := by simpa using hrow
      rw [hkey, hsame]
  · intro hcolumn rows
    simp only [Query.select, hcolumn, Value.column_integer]

/-- A row is added under an integer exactly if its key is taken for it. -/
theorem insert_key_eq_iff {key : Value} :
    (∀ value rows, (Statement.insert key value).apply rows =
        (Statement.insert (.integer v) value).apply rows) ↔
      key.column = .ok (some v) := by
  constructor
  · intro hinsert
    have hrow := hinsert (.integer 0) []
    simp only [Statement.apply, Value.column_integer, Value.requiredColumn_integer] at hrow
    split at hrow
    case h_1 => simp at hrow
    case h_2 k hkey =>
      have hsame : k = some v := by simpa using hrow
      rw [hkey, hsame]
  · intro hcolumn value rows
    simp only [Statement.apply, hcolumn, Value.column_integer]

/-- A value is added as an integer exactly if it is taken for it. -/
theorem insert_value_eq_iff {value : Value} :
    (∀ rows, (Statement.insert .null value).apply rows =
        (Statement.insert .null (.integer v)).apply rows) ↔
      value.requiredColumn = .ok v := by
  constructor
  · intro hinsert
    have hrow := hinsert []
    simp only [Statement.apply, Value.column, Value.requiredColumn_integer] at hrow
    split at hrow
    case h_1 => simp at hrow
    case h_2 n hvalue =>
      have hsame : n = v := by simpa using hrow
      rw [hvalue, hsame]
  · intro hcolumn rows
    simp only [Statement.apply, hcolumn, Value.requiredColumn_integer]

/-! ## Agreement -/

/-- A token is one integer for the store and for the reader of literals, and what is written is read
back by both. -/
theorem readers_agree :
    (∀ (token : String) (v : Int64), (∀ c ∈ token.toList, Edn.Plain c) →
      List.TFAE
        [(Value.text token).column = .ok (some v),
          (Value.text token).requiredColumn = .ok v,
          ∀ rows, (Query.byKey (.text token)).select rows = (Query.byKey (.integer v)).select rows,
          ∀ value rows, (Statement.insert (.text token) value).apply rows =
            (Statement.insert (.integer v) value).apply rows,
          ∀ rows, (Statement.insert .null (.text token)).apply rows =
            (Statement.insert .null (.integer v)).apply rows,
          Edn.read token = .ok (.int v),
          Denotes token.toList v.toInt]) ∧
    ∀ (v : Int64) (pre post : String), (∀ c ∈ pre.toList, Text.isBlank c) →
      (∀ c ∈ post.toList, Text.isBlank c) →
        (Value.text (pre ++ Numeral.writeInt64 v ++ post)).column = .ok (some v) ∧
        Edn.read (pre ++ Numeral.writeInt64 v ++ post) = .ok (.int v) := by
  constructor
  · intro token v hplain
    have hunbroken : ∀ c ∈ token.toList, Text.isBlank c = false := fun c hc ↦
      Bool.eq_false_iff.2 fun hblank ↦ (hplain c hc).separates (.inl hblank)
    tfae_have 1 ↔ 2 := Value.requiredColumn_eq_ok.symm
    tfae_have 1 ↔ 3 := select_eq_iff.symm
    tfae_have 1 ↔ 4 := insert_key_eq_iff.symm
    tfae_have 2 ↔ 5 := insert_value_eq_iff.symm
    tfae_have 6 ↔ 7 := Edn.read_eq_int hplain
    tfae_have 1 ↔ 7 := by rw [Value.column_text_eq_ok, Text.trim_of_unbroken hunbroken]
    tfae_finish
  · intro v pre post hpre hpost
    have hdenotes : Denotes (Numeral.writeInt64 v).toList v.toInt := Numeral.denotes_write v.toInt
    constructor
    · rw [Value.column_text_eq_ok, String.toList_append, String.toList_append,
        Text.trim_pad hpre hpost, hdenotes.isWord.trim]
      exact hdenotes
    · exact Edn.read_numeral hdenotes (fun c hc ↦ .inl (hpre c hc)) fun c hc ↦ .inl (hpost c hc)

/-- Zeros in front are read too, and a no-break space is white space. -/
theorem readers_agree_signed :
    (∀ c ∈ "-0042".toList, Edn.Plain c) ∧
    (∀ c ∈ "\u00a0\t".toList, Text.isBlank c) ∧ (∀ c ∈ "\n".toList, Text.isBlank c) ∧
    (Value.text "-0042").column = .ok (some (-42)) ∧ Edn.read "-0042" = .ok (.int (-42)) ∧
    (Value.text ("\u00a0\t" ++ Numeral.writeInt64 (-42) ++ "\n")).column = .ok (some (-42)) := by
  have hall : "-0042".toList.all (Edn.Plain ·) := rfl
  have hplain : ∀ c ∈ "-0042".toList, Edn.Plain c := fun c hc ↦
    of_decide_eq_true (List.all_eq_true.1 hall c hc)
  have hpre : ∀ c ∈ "\u00a0\t".toList, Text.isBlank c := List.all_eq_true.1 rfl
  have hpost : ∀ c ∈ "\n".toList, Text.isBlank c := List.all_eq_true.1 rfl
  have hagree := readers_agree.1 "-0042" (-42) hplain
  have hcolumn : (Value.text "-0042").column = .ok (some (-42)) := rfl
  exact ⟨hplain, hpre, hpost, hcolumn, (hagree.out 0 5).1 hcolumn,
    (readers_agree.2 (-42) "\u00a0\t" "\n" hpre hpost).1⟩

end Store

end Turnstile
