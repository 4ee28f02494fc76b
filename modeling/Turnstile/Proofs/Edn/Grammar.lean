import Turnstile.Proofs.Edn.Writing

/-!
# The grammar of data literals

A text is made of atoms, quoted strings and collections in brackets, with white space and commas
anywhere between them.  The grammar derives it from its characters and does not mention tokens.  An
atom is a maximal run of plain characters, so what follows it must not be one.

Whatever the grammar derives is read as the form that it gives, as long as no more collections are
inside each other than the reader allows.
-/

namespace Turnstile.Edn

open Numeral (Denotes)

/-! ## Characters -/

/-- White space and commas only separate. -/
def Separates (c : Char) : Prop :=
  Text.isBlank c ∨ c = ','

instance (c : Char) : Decidable (Separates c) :=
  inferInstanceAs (Decidable (_ ∨ _))

/-- The characters of atoms. -/
structure Plain (c : Char) : Prop where
  separates : ¬ Separates c
  quote : c ≠ '"'
  bracket : ∀ b : Bracket, c ≠ b.opening ∧ c ≠ b.closing

theorem classify_of_separates {c : Char} (hc : Separates c) : classify c = .separator := by
  unfold classify
  split
  case h_9 hcomma => exact if_pos (hc.resolve_right hcomma)
  case h_8 => rfl
  all_goals exact absurd hc (by decide)

theorem classify_eq_plain {c : Char} : classify c = .plain ↔ Plain c := by
  constructor
  · intro hc
    refine ⟨fun hsep ↦ ?_, ?_, fun b ↦ ⟨?_, ?_⟩⟩
    · rw [classify_of_separates hsep] at hc
      exact nomatch hc
    · rintro rfl
      exact nomatch hc
    · rintro rfl
      rw [classify_opening] at hc
      exact nomatch hc
    · rintro rfl
      rw [classify_closing] at hc
      exact nomatch hc
  · intro hc
    unfold classify
    split
    case h_9 => exact if_neg fun hblank ↦ hc.separates (.inl hblank)
    case h_1 => exact absurd rfl (hc.bracket .square).1
    case h_2 => exact absurd rfl (hc.bracket .square).2
    case h_3 => exact absurd rfl (hc.bracket .round).1
    case h_4 => exact absurd rfl (hc.bracket .round).2
    case h_5 => exact absurd rfl (hc.bracket .curly).1
    case h_6 => exact absurd rfl (hc.bracket .curly).2
    case h_7 => exact absurd rfl hc.quote
    case h_8 => exact absurd (.inr rfl) hc.separates

instance (c : Char) : Decidable (Plain c) :=
  decidable_of_iff _ classify_eq_plain

/-- Nothing at the start of the text continues an atom before it. -/
def Breaks (text : List Char) : Prop :=
  ∀ c ∈ text.head?, ¬ Plain c

theorem Breaks.nil : Breaks [] := nofun

theorem Breaks.cons {c : Char} (hc : ¬ Plain c) (rest : List Char) : Breaks (c :: rest) := by
  intro c' hc'
  exact Option.some.inj hc' ▸ hc

theorem ends_iff_breaks {text : List Char} : Ends text ↔ Breaks text := by
  simp only [Ends, Breaks, ne_eq, classify_eq_plain]

/-! ## Atoms and strings -/

/-- Words that are values of their own. -/
inductive Reserved : List Char → Form → Prop
  | nil : Reserved ['n', 'i', 'l'] .nil
  | true : Reserved ['t', 'r', 'u', 'e'] (.bool true)
  | false : Reserved ['f', 'a', 'l', 's', 'e'] (.bool false)

/-- A word that starts with a digit, or with a sign and a digit. -/
def StartsNumeral (word : List Char) : Prop :=
  ∃ sign digit rest, word = sign ++ digit :: rest ∧ digit.isDigit ∧
    (sign = [] ∨ sign = ['+'] ∨ sign = ['-'])

/-- An atom and its form. -/
inductive Atom : List Char → Form → Prop
  | reserved {word : List Char} {f : Form} (hreserved : Reserved word f) : Atom word f
  | keyword {name : List Char} (hne : name ≠ []) (hplain : ∀ c ∈ name, Plain c) :
      Atom (':' :: name) (.keyword (String.ofList name))
  | int {word : List Char} {v : Int64} (hdenotes : Denotes word v.toInt) : Atom word (.int v)
  | symbol {word : List Char} (hne : word ≠ []) (hplain : ∀ c ∈ word, Plain c)
      (hreserved : ∀ f, ¬ Reserved word f) (hkeyword : word.head? ≠ some ':')
      (hnumeral : ¬ StartsNumeral word) : Atom word (.symbol (String.ofList word))

/-- What stands between the quotes of a string, and the characters that it means. -/
inductive Quotes : List Char → List Char → Prop
  | nil : Quotes [] []
  | char {c : Char} {body s : List Char} (hquote : c ≠ '"') (hbackslash : c ≠ '\\')
      (hbody : Quotes body s) : Quotes (c :: body) (c :: s)
  | lineFeed {body s : List Char} (hbody : Quotes body s) :
      Quotes ('\\' :: 'n' :: body) ('\n' :: s)
  | tab {body s : List Char} (hbody : Quotes body s) : Quotes ('\\' :: 't' :: body) ('\t' :: s)
  | escaped {c : Char} {body s : List Char} (hlineFeed : c ≠ 'n') (htab : c ≠ 't')
      (hbody : Quotes body s) : Quotes ('\\' :: c :: body) (c :: s)

theorem startsNumeral_of_looksNumeric {word : List Char} (hnumeric : looksNumeric word) :
    StartsNumeral word := by
  cases word with
  | nil => simp [looksNumeric] at hnumeric
  | cons c rest =>
    simp only [looksNumeric, Bool.or_eq_true, Bool.and_eq_true, decide_eq_true_eq] at hnumeric
    rcases hnumeric with hdigit | ⟨hsign, hrest⟩
    · exact ⟨[], c, rest, rfl, hdigit, .inl rfl⟩
    · cases rest with
      | nil => simp at hrest
      | cons d more =>
        refine ⟨[c], d, more, rfl, hrest, ?_⟩
        rcases hsign with rfl | rfl
        · exact .inr (.inr rfl)
        · exact .inr (.inl rfl)

namespace Atom

variable {word : List Char} {f : Form}

theorem ne_nil (hatom : Atom word f) : word ≠ [] := by
  cases hatom with
  | reserved hreserved => cases hreserved <;> exact List.cons_ne_nil _ _
  | keyword hne hplain => exact List.cons_ne_nil _ _
  | int hdenotes =>
    obtain ⟨c, rest, rfl, _⟩ := hdenotes.exists_cons
    exact List.cons_ne_nil c rest
  | symbol hne => exact hne

theorem classify (hatom : Atom word f) : ∀ c ∈ word, classify c = .plain := by
  cases hatom with
  | reserved hreserved =>
    have hall : word.all (Edn.classify · = .plain) := by cases hreserved <;> rfl
    exact fun c hc ↦ of_decide_eq_true (List.all_eq_true.1 hall c hc)
  | keyword hne hplain =>
    exact List.forall_mem_cons.2 ⟨rfl, fun c hc ↦ classify_eq_plain.2 (hplain c hc)⟩
  | int hdenotes => exact classify_of_mem_denotes hdenotes
  | symbol hne hplain => exact fun c hc ↦ classify_eq_plain.2 (hplain c hc)

theorem form (hatom : Atom word f) : atomForm (String.ofList word) = .ok f := by
  cases hatom with
  | reserved hreserved => cases hreserved <;> rfl
  | @keyword name hne hplain =>
    unfold atomForm
    rw [String.toList_ofList]
    split
    case h_1 heq | h_2 heq | h_3 heq => simp at heq
    case h_4 heq => exact absurd (List.cons.inj heq).2 hne
    case h_5 heq => rw [(List.cons.inj heq).2]
    case h_6 hkeyword => exact absurd rfl (hkeyword name)
  | int hdenotes => exact atomForm_of_denotes hdenotes
  | symbol hne hplain hreserved hkeyword hnumeral =>
    unfold atomForm
    rw [String.toList_ofList]
    split
    case h_1 => exact absurd .nil (hreserved _)
    case h_2 => exact absurd .true (hreserved _)
    case h_3 => exact absurd .false (hreserved _)
    case h_4 | h_5 => exact absurd rfl hkeyword
    case h_6 => rw [if_neg fun hnumeric ↦ hnumeral (startsNumeral_of_looksNumeric hnumeric)]

end Atom

theorem Quotes.foldl {body s : List Char} (hquotes : Quotes body s) (tokens : List Token)
    (read : List Char) :
    body.foldl Lexing.step (tokens, .inString read) = (tokens, .inString (s.reverse ++ read)) := by
  induction hquotes generalizing read with
  | nil => rfl
  | @char c body s hquote hbackslash hbody ih =>
    have hstep : Lexing.step (tokens, .inString read) c = (tokens, .inString (c :: read)) := by
      unfold Lexing.step
      split <;> simp_all
    rw [List.foldl_cons, hstep, ih]
    simp
  | lineFeed hbody ih | tab hbody ih =>
    rw [List.foldl_cons, List.foldl_cons]
    simp only [Lexing.step, Lexing.unescape]
    rw [ih]
    simp
  | escaped hlineFeed htab hbody ih =>
    rw [List.foldl_cons, List.foldl_cons]
    simp only [Lexing.step, Lexing.unescape]
    rw [ih]
    simp

theorem tokenize_str {body s : List Char} (hquotes : Quotes body s) (rest : List Char) :
    tokenize ('"' :: (body ++ '"' :: rest)) =
      (tokenize rest).map (.str (String.ofList s) :: ·) := by
  unfold tokenize
  rw [List.foldl_cons, List.foldl_append]
  have hopen : Lexing.step ([], .outside) '"' = ([], .inString []) := rfl
  rw [hopen, hquotes.foldl, List.append_nil, List.foldl_cons]
  simp only [Lexing.step, List.reverse_reverse]
  exact Lexing.finish_foldl [.str (String.ofList s)] .outside rest

/-! ## Literals -/

/-- What the items between a pair of brackets make. -/
inductive Encloses : Bracket → List Form → Form → Prop
  | vector (items : List Form) : Encloses .square items (.vector items)
  | list (items : List Form) : Encloses .round items (.list items)
  | map (pairs : List (Form × Form)) :
      Encloses .curly (pairs.flatMap fun p ↦ [p.1, p.2]) (.map pairs)

theorem Encloses.form {b : Bracket} {items : List Form} {f : Form} (hencloses : Encloses b items f) :
    OpenCollection.form ⟨b, items.reverse⟩ = .ok f := by
  unfold OpenCollection.form
  simp only [List.reverse_reverse]
  cases hencloses with
  | vector | list => rfl
  | map pairs =>
    rw [pairUp, pairUpOnto_flatMap]
    rfl

/-- The text is literals of the forms, one after another, with at most `depth` collections inside each
other. -/
inductive Literals : Nat → List Char → List Form → Prop
  | nil (depth : Nat) : Literals depth [] []
  | gap {depth : Nat} {c : Char} {rest : List Char} {forms : List Form} (hc : Separates c)
      (hrest : Literals depth rest forms) : Literals depth (c :: rest) forms
  | atom {depth : Nat} {word rest : List Char} {f : Form} {forms : List Form} (hatom : Atom word f)
      (hbreaks : Breaks rest) (hrest : Literals depth rest forms) :
      Literals depth (word ++ rest) (f :: forms)
  | str {depth : Nat} {body s rest : List Char} {forms : List Form} (hquotes : Quotes body s)
      (hrest : Literals depth rest forms) :
      Literals depth ('"' :: (body ++ '"' :: rest)) (.str (String.ofList s) :: forms)
  | collection {depth : Nat} {inner rest : List Char} {items forms : List Form} {f : Form}
      (b : Bracket) (hinner : Literals depth inner items) (hencloses : Encloses b items f)
      (hrest : Literals (depth + 1) rest forms) :
      Literals (depth + 1) (b.opening :: (inner ++ b.closing :: rest)) (f :: forms)

namespace Literals

variable {depth : Nat} {text text' : List Char} {forms forms' : List Form} {f : Form}

/-- Literals follow each other if an atom at the end of the first is not continued by the second. -/
theorem append (hfirst : Literals depth text forms) (hsecond : Literals depth text' forms')
    (hbreaks : Breaks text') : Literals depth (text ++ text') (forms ++ forms') := by
  induction hfirst with
  | nil => exact hsecond
  | gap hc hrest ih => exact .gap hc (ih hsecond)
  | atom hatom hends hrest ih =>
    rw [List.append_assoc]
    refine .atom hatom ?_ (ih hsecond)
    exact ends_iff_breaks.1 ((ends_iff_breaks.2 hends).append (ends_iff_breaks.2 hbreaks))
  | str hquotes hrest ih =>
    rw [List.cons_append, List.append_assoc, List.cons_append]
    exact .str hquotes (ih hsecond)
  | collection b hinner hencloses hrest _ ih =>
    rw [List.cons_append, List.append_assoc, List.cons_append]
    exact .collection b hinner hencloses (ih hsecond)

theorem gaps {sep : List Char} (hsep : ∀ c ∈ sep, Separates c) (hliterals : Literals depth text forms) :
    Literals depth (sep ++ text) forms := by
  induction sep with
  | nil => exact hliterals
  | cons c sep ih =>
    obtain ⟨hc, hmore⟩ := List.forall_mem_cons.1 hsep
    exact .gap hc (ih hmore)

/-- Parts with separators between them are all their literals. -/
theorem intercalate {sep : List Char} (hne : sep ≠ []) (hsep : ∀ c ∈ sep, Separates c)
    {parts : List (List Char)} {written : List (List Form)}
    (hparts : List.Forall₂ (Literals depth) parts written) :
    Literals depth (sep.intercalate parts) written.flatten := by
  induction hparts with
  | nil => exact nil depth
  | @cons part forms parts written hpart hrest ih =>
    cases hrest with
    | nil =>
      rw [List.intercalate_singleton, List.flatten_singleton]
      exact hpart
    | @cons next _ more _ _ _ =>
      obtain ⟨c, sep', rfl⟩ := List.exists_cons_of_ne_nil hne
      have hbreaks : Breaks (c :: sep' ++ (c :: sep').intercalate (next :: more)) :=
        .cons (fun hc ↦ hc.separates (hsep c List.mem_cons_self)) _
      rw [List.intercalate_cons_cons, List.append_assoc]
      exact hpart.append (ih.gaps hsep) hbreaks

theorem word (hatom : Atom text f) (depth : Nat) : Literals depth text [f] := by
  have hword := Literals.atom hatom .nil (.nil depth)
  rwa [List.append_nil] at hword

theorem keyword {text name : String} (htext : text.toList = ':' :: name.toList)
    (hne : name.toList ≠ []) (hplain : name.toList.all (Plain ·)) (depth : Nat) :
    Literals depth text.toList [.keyword name] := by
  have hname : ∀ c ∈ name.toList, Plain c := fun c hc ↦
    of_decide_eq_true (List.all_eq_true.1 hplain c hc)
  have hword := word (.keyword hne hname) depth
  rwa [String.ofList_toList, ← htext] at hword

theorem int {v : Int64} (hdenotes : Denotes text v.toInt) (depth : Nat) :
    Literals depth text [.int v] :=
  word (.int hdenotes) depth

theorem writeInt64 (v : Int64) (depth : Nat) :
    Literals depth (Numeral.writeInt64 v).toList [.int v] :=
  int (Numeral.denotes_write v.toInt) depth

theorem enclosed (b : Bracket) (hliterals : Literals depth text forms) (hencloses : Encloses b forms f) :
    Literals (depth + 1) (b.opening :: (text ++ [b.closing])) [f] :=
  .collection b hliterals hencloses (.nil (depth + 1))

/-- Texts with blanks between them are their literals, one after another. -/
theorem spaced {texts : List String} {items : List Form}
    (htexts : List.Forall₂ (fun text item ↦ Literals depth text.toList [item]) texts items) :
    Literals depth (String.intercalate " " texts).toList items := by
  have hparts : List.Forall₂ (Literals depth) (texts.map String.toList) (items.map ([·])) :=
    List.forall₂_map_left_iff.2 (List.forall₂_map_right_iff.2 htexts)
  have hsep : ∀ c ∈ [' '], Separates c := List.forall_mem_singleton.2 (by decide)
  have hitems := intercalate (List.cons_ne_nil ' ' []) hsep hparts
  have hflat : (items.map ([·])).flatten = items := List.flatMap_singleton' items
  rw [hflat] at hitems
  rw [String.toList_intercalate]
  exact hitems

theorem integers (ids : List Int64) (depth : Nat) :
    List.Forall₂ (fun text item ↦ Literals depth text.toList [item]) (ids.map Numeral.writeInt64)
      (ids.map .int) :=
  List.forall₂_map_left_iff.2 (List.forall₂_map_right_iff.2
    (List.forall₂_same.2 fun v _ ↦ writeInt64 v depth))

/-- In square brackets they are a vector. -/
theorem vector {texts : List String} {items : List Form}
    (htexts : List.Forall₂ (fun text item ↦ Literals depth text.toList [item]) texts items) :
    Literals (depth + 1) ("[" ++ String.intercalate " " texts ++ "]").toList [.vector items] := by
  rw [String.toList_append, String.toList_append]
  exact (spaced htexts).enclosed .square (.vector items)

/-- Texts of a key and a value with commas between them, in curly brackets, are a map. -/
theorem map {α : Type} {items : List α} {text : α → String} {pair : α → Form × Form}
    (hitems : ∀ a ∈ items, Literals depth (text a).toList [(pair a).1, (pair a).2]) :
    Literals (depth + 1) ("\x7b" ++ String.intercalate ", " (items.map text) ++ "\x7d").toList
      [.map (items.map pair)] := by
  have hparts : List.Forall₂ (Literals depth) ((items.map text).map String.toList)
      ((items.map pair).map fun p ↦ [p.1, p.2]) := by
    rw [List.map_map, List.map_map]
    exact List.forall₂_map_left_iff.2 (List.forall₂_map_right_iff.2 (List.forall₂_same.2 hitems))
  have hsep : ∀ c ∈ [',', ' '], Separates c :=
    List.forall_mem_cons.2 ⟨by decide, List.forall_mem_singleton.2 (by decide)⟩
  have hpairs := intercalate (List.cons_ne_nil ',' [' ']) hsep hparts
  rw [String.toList_append, String.toList_append, String.toList_intercalate]
  exact hpairs.enclosed .curly (.map _)

/-- Derived literals are found by the lexer and the reader. -/
theorem spells (hliterals : Literals depth text forms) : Spells depth text forms := by
  induction hliterals with
  | nil depth => exact .nil depth
  | gap hc hrest ih => exact ih.gap (classify_of_separates hc)
  | atom hatom hbreaks hrest ih =>
    exact (Spells.atom hatom.ne_nil hatom.classify hatom.form).append ih (ends_iff_breaks.2 hbreaks)
  | @str depth body s rest forms hquotes hrest ih =>
    intro tail htail
    obtain ⟨tokens, hwrites, htokens⟩ := ih tail htail
    refine ⟨.str (String.ofList s) :: tokens, .str _ hwrites, ?_⟩
    rw [List.cons_append, List.append_assoc, List.cons_append, tokenize_str hquotes, htokens,
      Option.map_map]
    rfl
  | collection b hinner hencloses hrest ihinner ih =>
    exact ihinner.enclosed b hencloses.form ih

/-- The literal of one form is read as that form. -/
theorem read {s : String} (hliterals : Literals depth s.toList [f]) (hdepth : depth ≤ maxDepth) :
    Edn.read s = .ok f :=
  hliterals.spells.read hdepth

end Literals

end Turnstile.Edn
