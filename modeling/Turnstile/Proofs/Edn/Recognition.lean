import Turnstile.Proofs.Edn.Grammar

/-!
# Exactly the grammar is read

What the lexer makes of a text is written in it, and what the reader makes of the tokens the grammar
derives.  At each moment the open collections say what the rest of the text must be: the items of the
innermost one up to the bracket that closes it, and then what the next one needs.  A run of the reader
that ends well fulfils this, so a form is read from a text exactly if the grammar derives the text as
that form.
-/

namespace Turnstile.Edn

/-! ## Tokens in a text -/

/-- The text is made of the tokens, with separators anywhere between them. -/
inductive Lexes : List Char → List Token → Prop
  | nil : Lexes [] []
  | gap {c : Char} {rest : List Char} {tokens : List Token} (hc : Separates c)
      (hrest : Lexes rest tokens) : Lexes (c :: rest) tokens
  | opening {rest : List Char} {tokens : List Token} (b : Bracket) (hrest : Lexes rest tokens) :
      Lexes (b.opening :: rest) (.opening b :: tokens)
  | closing {rest : List Char} {tokens : List Token} (b : Bracket) (hrest : Lexes rest tokens) :
      Lexes (b.closing :: rest) (.closing b :: tokens)
  | str {body s rest : List Char} {tokens : List Token} (hquotes : Quotes body s)
      (hrest : Lexes rest tokens) :
      Lexes ('"' :: (body ++ '"' :: rest)) (.str (String.ofList s) :: tokens)
  | atom {word rest : List Char} {tokens : List Token} (hne : word ≠ []) (hplain : ∀ c ∈ word, Plain c)
      (hbreaks : Breaks rest) (hrest : Lexes rest tokens) :
      Lexes (word ++ rest) (.atom (String.ofList word) :: tokens)

/-- What the text is made of from where the lexer stands. -/
inductive Scans : Lexing → List Char → List Token → Prop
  | outside {text : List Char} {tokens : List Token} (hlexes : Lexes text tokens) :
      Scans .outside text tokens
  | inAtom {read word rest : List Char} {tokens : List Token} (hplain : ∀ c ∈ word, Plain c)
      (hbreaks : Breaks rest) (hrest : Lexes rest tokens) :
      Scans (.inAtom read) (word ++ rest) (.atom (String.ofList (read.reverse ++ word)) :: tokens)
  | inString {read body s rest : List Char} {tokens : List Token} (hquotes : Quotes body s)
      (hrest : Lexes rest tokens) :
      Scans (.inString read) (body ++ '"' :: rest) (.str (String.ofList (read.reverse ++ s)) :: tokens)
  | afterBackslash {read body s rest : List Char} {tokens : List Token}
      (hquotes : Quotes ('\\' :: body) s) (hrest : Lexes rest tokens) :
      Scans (.afterBackslash read) (body ++ '"' :: rest)
        (.str (String.ofList (read.reverse ++ s)) :: tokens)

variable {c : Char} {rest : List Char} {tokens : List Token} {b : Bracket}

theorem separates_of_classify (hc : classify c = .separator) : Separates c := by
  unfold classify at hc
  split at hc
  case h_8 => exact .inr rfl
  case h_9 =>
    split at hc
    case isTrue hblank => exact .inl hblank
    case isFalse => simp at hc
  all_goals simp at hc

theorem eq_opening_of_classify (hc : classify c = .opening b) : c = b.opening := by
  unfold classify at hc
  split at hc
  case h_1 | h_3 | h_5 =>
    obtain rfl := CharClass.opening.inj hc
    rfl
  case h_9 => split at hc <;> simp at hc
  all_goals simp at hc

theorem eq_closing_of_classify (hc : classify c = .closing b) : c = b.closing := by
  unfold classify at hc
  split at hc
  case h_2 | h_4 | h_6 =>
    obtain rfl := CharClass.closing.inj hc
    rfl
  case h_9 => split at hc <;> simp at hc
  all_goals simp at hc

theorem eq_quote_of_classify (hc : classify c = .quote) : c = '"' := by
  unfold classify at hc
  split at hc
  case h_7 => rfl
  case h_9 => split at hc <;> simp at hc
  all_goals simp at hc

/-- The character after a backslash. -/
theorem Quotes.backslash {body s : List Char} (hbody : Quotes body s) (c : Char) :
    Quotes ('\\' :: c :: body) (Lexing.unescape c :: s) := by
  unfold Lexing.unescape
  split
  case h_1 => exact .lineFeed hbody
  case h_2 => exact .tab hbody
  case h_3 hlineFeed htab => exact .escaped hlineFeed htab hbody

theorem Lexes.enter (hrest : Scans (Lexing.enter [] c).2 rest tokens) :
    Lexes (c :: rest) ((Lexing.enter [] c).1.reverse ++ tokens) := by
  unfold Lexing.enter at hrest ⊢
  cases hc : classify c with
  | separator =>
    rw [hc] at hrest
    cases hrest with
    | outside hlexes => exact .gap (separates_of_classify hc) hlexes
  | opening b =>
    rw [hc] at hrest
    cases hrest with
    | outside hlexes =>
      rw [eq_opening_of_classify hc]
      exact .opening b hlexes
  | closing b =>
    rw [hc] at hrest
    cases hrest with
    | outside hlexes =>
      rw [eq_closing_of_classify hc]
      exact .closing b hlexes
  | quote =>
    rw [hc] at hrest
    cases hrest with
    | inString hquotes hlexes =>
      rw [eq_quote_of_classify hc]
      exact .str hquotes hlexes
  | plain =>
    rw [hc] at hrest
    cases hrest with
    | inAtom hplain hbreaks hlexes =>
      have hword := List.forall_mem_cons.2 ⟨classify_eq_plain.1 hc, hplain⟩
      exact .atom (List.cons_ne_nil c _) hword hbreaks hlexes

/-- One character before those that are made of tokens. -/
theorem Scans.step {place : Lexing} (hrest : Scans (Lexing.step ([], place) c).2 rest tokens) :
    Scans place (c :: rest) ((Lexing.step ([], place) c).1.reverse ++ tokens) := by
  cases place with
  | outside => exact .outside (.enter hrest)
  | inAtom read =>
    by_cases hc : classify c = .plain
    · have hstep : Lexing.step ([], .inAtom read) c = ([], .inAtom (c :: read)) := by
        simp only [Lexing.step, hc]
      rw [hstep] at hrest ⊢
      cases hrest with
      | inAtom hplain hbreaks hlexes =>
        have hword := List.forall_mem_cons.2 ⟨classify_eq_plain.1 hc, hplain⟩
        have hscans : Scans (.inAtom read) _ _ := .inAtom hword hbreaks hlexes
        simpa using hscans
    · have hstep : Lexing.step ([], .inAtom read) c =
          ((Lexing.enter [] c).1 ++ [.atom (String.ofList read.reverse)], (Lexing.enter [] c).2) := by
        simp only [Lexing.step]
        exact Lexing.enter_append _ c
      rw [hstep] at hrest ⊢
      have hbreaks : Breaks (c :: rest) := .cons (mt classify_eq_plain.2 hc) rest
      have hscans : Scans (.inAtom read) _ _ :=
        .inAtom (List.forall_mem_nil _) hbreaks (.enter hrest)
      simpa using hscans
  | inString read =>
    by_cases hquote : c = '"'
    · subst hquote
      cases hrest with
      | outside hlexes =>
        have hscans : Scans (.inString read) _ _ := .inString .nil hlexes
        simpa [Lexing.step] using hscans
    · by_cases hbackslash : c = '\\'
      · subst hbackslash
        cases hrest with
        | afterBackslash hquotes hlexes => exact .inString hquotes hlexes
      · have hstep : Lexing.step ([], .inString read) c = ([], .inString (c :: read)) := by
          unfold Lexing.step
          split <;> simp_all
        rw [hstep] at hrest ⊢
        cases hrest with
        | inString hquotes hlexes =>
          have hscans : Scans (.inString read) _ _ :=
            .inString (.char hquote hbackslash hquotes) hlexes
          simpa using hscans
  | afterBackslash read =>
    cases hrest with
    | inString hquotes hlexes =>
      have hscans : Scans (.afterBackslash read) _ _ :=
        .afterBackslash (hquotes.backslash c) hlexes
      simpa [Lexing.step] using hscans

theorem scans_of_finish {text : List Char} {place : Lexing}
    (hfinish : Lexing.finish (text.foldl Lexing.step ([], place)) = some tokens) :
    Scans place text tokens := by
  induction text generalizing place tokens with
  | nil =>
    cases place with
    | outside =>
      obtain rfl := Option.some.inj hfinish
      exact .outside .nil
    | inAtom read =>
      obtain rfl := Option.some.inj hfinish
      have hscans : Scans (.inAtom read) _ _ := .inAtom (List.forall_mem_nil _) .nil .nil
      simpa using hscans
    | inString | afterBackslash => simp [Lexing.finish] at hfinish
  | cons c text ih =>
    rw [List.foldl_cons, Lexing.finish_foldl] at hfinish
    obtain ⟨more, hmore, rfl⟩ := Option.map_eq_some_iff.1 hfinish
    exact (ih hmore).step

/-- What the lexer finds is what the text is made of. -/
theorem lexes_of_tokenize {text : List Char} (htokens : tokenize text = some tokens) :
    Lexes text tokens := by
  cases scans_of_finish htokens with
  | outside hlexes => exact hlexes

/-! ## Forms of atoms and collections -/

variable {word : List Char} {f : Form}

theorem looksNumeric_of_startsNumeral (hnumeral : StartsNumeral word) : looksNumeric word := by
  obtain ⟨sign, digit, rest, rfl, hdigit, rfl | rfl | rfl⟩ := hnumeral <;>
    simp [looksNumeric, hdigit]

theorem Atom.of_form (hne : word ≠ []) (hplain : ∀ c ∈ word, Plain c)
    (hform : atomForm (String.ofList word) = .ok f) : Atom word f := by
  unfold atomForm at hform
  rw [String.toList_ofList] at hform
  split at hform
  case h_1 =>
    obtain rfl := Except.ok.inj hform
    exact .reserved .nil
  case h_2 =>
    obtain rfl := Except.ok.inj hform
    exact .reserved .true
  case h_3 =>
    obtain rfl := Except.ok.inj hform
    exact .reserved .false
  case h_4 => simp at hform
  case h_5 name hname =>
    obtain rfl := Except.ok.inj hform
    exact .keyword (fun hempty ↦ hname (hempty ▸ rfl)) (List.forall_mem_cons.1 hplain).2
  case h_6 hnil htrue hfalse hcolon hkeyword =>
    split at hform
    case isTrue hnumeric =>
      split at hform
      case h_1 n hread =>
        obtain rfl := Except.ok.inj hform
        exact .int (Numeral.readInt64_eq_some.1 hread)
      case h_2 => simp at hform
    case isFalse hnumeric =>
      obtain rfl := Except.ok.inj hform
      refine .symbol hne hplain ?_ ?_ fun hnumeral ↦ hnumeric (looksNumeric_of_startsNumeral hnumeral)
      · rintro _ hreserved
        cases hreserved with
        | nil => exact hnil rfl
        | true => exact htrue rfl
        | false => exact hfalse rfl
      · intro hhead
        obtain ⟨name, rfl⟩ := List.head?_eq_some_iff.1 hhead
        exact hkeyword name rfl

theorem pairUpOnto_eq_some {before pairs : List (Form × Form)} {items : List Form}
    (hpairs : pairUpOnto before items = some pairs) :
    ∃ more, pairs = before.reverse ++ more ∧ items = more.flatMap fun p ↦ [p.1, p.2] := by
  fun_induction pairUpOnto before items with
  | case1 before =>
    obtain rfl := Option.some.inj hpairs
    exact ⟨[], (List.append_nil _).symm, rfl⟩
  | case2 => simp at hpairs
  | case3 before k v rest ih =>
    obtain ⟨more, rfl, rfl⟩ := ih hpairs
    exact ⟨(k, v) :: more, by simp, rfl⟩

theorem Encloses.of_form {items : List Form} (hform : OpenCollection.form ⟨b, items.reverse⟩ = .ok f) :
    Encloses b items f := by
  unfold OpenCollection.form at hform
  simp only [List.reverse_reverse] at hform
  cases b with
  | square =>
    obtain rfl := Except.ok.inj hform
    exact .vector items
  | round =>
    obtain rfl := Except.ok.inj hform
    exact .list items
  | curly =>
    simp only at hform
    split at hform
    case h_1 pairs hpairs =>
      obtain rfl := Except.ok.inj hform
      obtain ⟨_, rfl, rfl⟩ := pairUpOnto_eq_some hpairs
      exact .map pairs
    case h_2 => simp at hform

/-! ## Readings that end well -/

/-- The text turns what has been read so far into the one form: it closes the open collections one
after another, with more items of each before its closing bracket. -/
inductive Closes : Reading → List Char → Form → Prop
  | complete {text : List Char} {f : Form} (hgaps : Literals maxDepth text []) :
      Closes (.complete f) text f
  | single {text : List Char} {f : Form} (hliteral : Literals maxDepth text [f]) :
      Closes (.inside []) text f
  | closing {c : OpenCollection} {outer : List OpenCollection} {inner rest : List Char}
      {items : List Form} {g f : Form} (hinner : Literals (maxDepth - (outer.length + 1)) inner items)
      (hform : OpenCollection.form { c with items := items.reverse ++ c.items } = .ok g)
      (hrest : Closes (.push g outer) rest f) :
      Closes (.inside (c :: outer)) (inner ++ c.bracket.closing :: rest) f

namespace Closes

variable {r : Reading} {opened : List OpenCollection} {text : List Char} {g : Form}

theorem gap (hcloses : Closes r text f) (hc : Separates c) : Closes r (c :: text) f := by
  cases hcloses with
  | complete hgaps => exact .complete (.gap hc hgaps)
  | single hliteral => exact .single (.gap hc hliteral)
  | closing hinner hform hrest => exact .closing (.gap hc hinner) hform hrest

/-- One more form before the rest of the text.  An atom goes before what does not continue it, and so
before every part of the rest from its start. -/
theorem item (piece : List Char) (hcloses : Closes (.push g opened) text f)
    (hitem : ∀ more forms, more <+: text → Literals (maxDepth - opened.length) more forms →
      Literals (maxDepth - opened.length) (piece ++ more) (g :: forms)) :
    Closes (.inside opened) (piece ++ text) f := by
  cases opened with
  | nil =>
    cases hcloses with
    | complete hgaps => exact .single (hitem text [] (List.prefix_refl text) hgaps)
  | cons c outer =>
    cases hcloses with
    | @closing _ _ inner rest items h _ hinner hform hrest =>
      rw [← List.append_assoc]
      refine .closing (hitem inner items (List.prefix_append inner _) hinner) ?_ hrest
      rw [List.reverse_cons, List.append_assoc]
      exact hform

theorem atom (hcloses : Closes (.push g opened) text f) (hatom : Atom word g) (hbreaks : Breaks text) :
    Closes (.inside opened) (word ++ text) f := by
  refine item word hcloses fun more forms hprefix hmore ↦ .atom hatom ?_ hmore
  intro c hc
  obtain ⟨after, rfl⟩ := hprefix
  exact hbreaks c (List.mem_head?_append_of_mem_head? hc)

theorem str {body s : List Char} (hcloses : Closes (.push (.str (String.ofList s)) opened) text f)
    (hquotes : Quotes body s) : Closes (.inside opened) ('"' :: (body ++ '"' :: text)) f := by
  have hitem := item ('"' :: (body ++ ['"'])) hcloses fun more forms _ hmore ↦ by
    simpa using Literals.str hquotes hmore
  simpa using hitem

/-- A collection that is opened and closed is one more form. -/
theorem opening (hcloses : Closes (.inside (⟨b, []⟩ :: opened)) text f)
    (hroom : opened.length < maxDepth) : Closes (.inside opened) (b.opening :: text) f := by
  cases hcloses with
  | @closing _ _ inner rest items g _ hinner hform hrest =>
    rw [List.append_nil] at hform
    have hdepth : maxDepth - opened.length = maxDepth - (opened.length + 1) + 1 := by omega
    have hitem := item (b.opening :: (inner ++ [b.closing])) hrest fun more forms _ hmore ↦ by
      rw [hdepth] at hmore ⊢
      simpa using Literals.collection b hinner (.of_form hform) hmore
    simpa using hitem

end Closes

/-- A run of the reader that ends well is one through a text that closes what was open. -/
theorem Lexes.closes {text : List Char} (hlexes : Lexes text tokens) {r : Reading}
    (hrun : r.run tokens = .ok f) : Closes r text f := by
  induction hlexes generalizing r with
  | nil =>
    cases r with
    | complete g =>
      obtain rfl := Except.ok.inj hrun
      exact .complete (.nil maxDepth)
    | inside opened =>
      cases opened with
      | nil => simp [Reading.run, Reading.finish] at hrun
      | cons c outer => simp [Reading.run, Reading.finish] at hrun
  | gap hc hrest ih => exact (ih hrun).gap hc
  | opening b hrest ih =>
    cases r with
    | complete g => simp [Reading.run, Reading.step] at hrun
    | inside opened =>
      by_cases hroom : maxDepth ≤ opened.length
      · simp [Reading.run, Reading.step, hroom] at hrun
      · simp only [Reading.run, Reading.step, if_neg hroom] at hrun
        exact (ih hrun).opening (Nat.lt_of_not_le hroom)
  | closing b hrest ih =>
    cases r with
    | complete g => simp [Reading.run, Reading.step] at hrun
    | inside opened =>
      cases opened with
      | nil => simp [Reading.run, Reading.step] at hrun
      | cons c outer =>
        by_cases hb : b = c.bracket
        · subst hb
          cases hform : c.form with
          | error fault => simp [Reading.run, Reading.step, hform, Except.map] at hrun
          | ok g =>
            simp only [Reading.run, Reading.step, hform, Except.map, if_pos] at hrun
            exact .closing (.nil _) hform (ih hrun)
        · simp [Reading.run, Reading.step, hb] at hrun
  | str hquotes hrest ih =>
    cases r with
    | complete g => simp [Reading.run, Reading.step] at hrun
    | inside opened =>
      simp only [Reading.run, Reading.step] at hrun
      exact (ih hrun).str hquotes
  | @atom word rest tokens hne hplain hbreaks hrest ih =>
    cases r with
    | complete g => simp [Reading.run, Reading.step] at hrun
    | inside opened =>
      cases hform : atomForm (String.ofList word) with
      | error fault => simp [Reading.run, Reading.step, hform, Except.map] at hrun
      | ok g =>
        simp only [Reading.run, Reading.step, hform, Except.map] at hrun
        exact (ih hrun).atom (.of_form hne hplain hform) hbreaks

/-- What is read is derived by the grammar. -/
theorem literals_of_read {s : String} (hread : read s = .ok f) : Literals maxDepth s.toList [f] := by
  unfold read readChars at hread
  cases htokens : tokenize s.toList with
  | none => simp [htokens] at hread
  | some tokens =>
    cases hrun : Reading.run (.inside []) tokens with
    | error fault => simp [htokens, hrun] at hread
    | ok g =>
      simp only [htokens, hrun] at hread
      obtain rfl := Except.ok.inj hread
      cases (lexes_of_tokenize htokens).closes hrun with
      | single hliteral => exact hliteral

/-- A form is read from a text exactly if the text is its literal, with at most thirty-two collections
inside each other, and any other text is malformed. -/
theorem recognized (s : String) :
    (∀ f, read s = .ok f ↔ Literals 32 s.toList [f]) ∧
      ((∀ f, ¬ Literals 32 s.toList [f]) → ∃ reason, read s = .error (.malformedRequest reason)) := by
  refine ⟨fun f ↦ ⟨literals_of_read, fun hliterals ↦ hliterals.read (Nat.le_refl maxDepth)⟩, ?_⟩
  intro hnone
  cases hread : readChars s.toList with
  | ok f =>
    have hform : read s = .ok f := by rw [read, hread]
    exact absurd (literals_of_read hform) (hnone f)
  | error fault => exact ⟨fault.message, by rw [read, hread]⟩

example : readChars ('[' :: (List.replicate 32 ['[', ']']).flatten ++ [']']) =
    .ok (.vector (.replicate 32 (.vector []))) := by
  rfl

example : readChars (.replicate 33 '[' ++ .replicate 33 ']') = .error .tooDeep := by
  rfl

end Turnstile.Edn
