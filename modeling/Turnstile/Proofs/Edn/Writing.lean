import Mathlib.Data.List.Forall2
import Turnstile.Edn.Reader
import Turnstile.Proofs.Edn.Lexing
import Turnstile.Proofs.Text.Numeral

/-!
# Texts that write forms

Forms are written one after another: an atom and a string by one token, and a collection by its
brackets with its items between them.  The reader takes every such writing back to its forms, as long
as no more collections are open at once than it allows.

A text is put together from parts in the same way.  What a part writes does not depend on what follows
it, save that an atom at its end must not be continued.
-/

namespace Turnstile.Edn

open Numeral (Denotes)

/-! ## Tokens -/

/-- The tokens write the forms, one after another, with at most `depth` collections open at once. -/
inductive Writes : Nat → List Token → List Form → Prop
  | nil (depth : Nat) : Writes depth [] []
  | str {depth : Nat} {rest : List Token} {forms : List Form} (s : String)
      (hrest : Writes depth rest forms) : Writes depth (.str s :: rest) (.str s :: forms)
  | atom {depth : Nat} {rest : List Token} {forms : List Form} {a : String} {f : Form}
      (hatom : atomForm a = .ok f) (hrest : Writes depth rest forms) :
      Writes depth (.atom a :: rest) (f :: forms)
  | collection {depth : Nat} {inner rest : List Token} {items forms : List Form} {f : Form}
      (b : Bracket) (hinner : Writes depth inner items)
      (hform : OpenCollection.form ⟨b, items.reverse⟩ = .ok f)
      (hrest : Writes (depth + 1) rest forms) :
      Writes (depth + 1) (.opening b :: (inner ++ .closing b :: rest)) (f :: forms)

namespace Writes

variable {depth : Nat} {tokens tokens' : List Token} {forms forms' : List Form}

theorem append (hfirst : Writes depth tokens forms) (hsecond : Writes depth tokens' forms') :
    Writes depth (tokens ++ tokens') (forms ++ forms') := by
  induction hfirst with
  | nil => exact hsecond
  | str s hrest ih => exact .str s (ih hsecond)
  | atom hatom hrest ih => exact .atom hatom (ih hsecond)
  | collection b hinner hform hrest _ ih =>
    rw [List.cons_append, List.append_assoc]
    exact .collection b hinner hform (ih hsecond)

theorem mono (hwrites : Writes depth tokens forms) {depth' : Nat} (hle : depth ≤ depth') :
    Writes depth' tokens forms := by
  induction hwrites generalizing depth' with
  | nil => exact .nil depth'
  | str s hrest ih => exact .str s (ih hle)
  | atom hatom hrest ih => exact .atom hatom (ih hle)
  | collection b hinner hform hrest ihinner ihrest =>
    obtain ⟨outer, rfl⟩ : ∃ outer, depth' = outer + 1 := ⟨depth' - 1, by omega⟩
    exact .collection b (ihinner (by omega)) hform (ihrest hle)

/-- Inside a collection the forms become its next items. -/
theorem run (hwrites : Writes depth tokens forms) {c : OpenCollection}
    {outer : List OpenCollection} (hdepth : outer.length + 1 + depth ≤ maxDepth)
    (rest : List Token) :
    Reading.run (.inside (c :: outer)) (tokens ++ rest) =
      Reading.run (.inside ({ c with items := forms.reverse ++ c.items } :: outer)) rest := by
  induction hwrites generalizing c outer rest with
  | nil => rfl
  | str s hrest ih =>
    rw [List.cons_append, Reading.run]
    simp only [Reading.step, Reading.push]
    rw [ih hdepth]
    simp
  | atom hatom hrest ih =>
    rw [List.cons_append, Reading.run]
    simp only [Reading.step, hatom, Except.map, Reading.push]
    rw [ih hdepth]
    simp
  | @collection depth inner rest' items forms f b hinner hform hrest ihinner ihrest =>
    have hroom : ¬ maxDepth ≤ (c :: outer).length := by
      rw [List.length_cons]
      omega
    have hinside : (c :: outer).length + 1 + depth ≤ maxDepth := by
      rw [List.length_cons]
      omega
    rw [List.cons_append, List.append_assoc, Reading.run]
    simp only [Reading.step, if_neg hroom]
    rw [ihinner hinside, List.cons_append, Reading.run]
    simp only [Reading.step, if_pos, List.append_nil, hform, Except.map, Reading.push]
    rw [ihrest hdepth]
    simp

theorem eq_nil (hwrites : Writes depth tokens []) : tokens = [] := by
  cases hwrites
  rfl

/-- What writes one form is read as that form. -/
theorem read {f : Form} (hwrites : Writes maxDepth tokens [f]) :
    Reading.run (.inside []) tokens = .ok f := by
  generalize hdepth : maxDepth = limit at hwrites
  cases hwrites with
  | str s hrest =>
    obtain rfl := hrest.eq_nil
    rfl
  | atom hatom hrest =>
    obtain rfl := hrest.eq_nil
    simp [Reading.run, Reading.step, hatom, Except.map, Reading.push, Reading.finish]
  | @collection depth inner rest items _ _ b hinner hform hrest =>
    obtain rfl := hrest.eq_nil
    have hroom : ¬ maxDepth ≤ ([] : List OpenCollection).length := by decide
    have hinside : ([] : List OpenCollection).length + 1 + depth ≤ maxDepth := by
      rw [List.length_nil]
      omega
    rw [Reading.run]
    simp only [Reading.step, if_neg hroom]
    rw [hinner.run hinside]
    simp [Reading.run, Reading.step, hform, Except.map, Reading.push, Reading.finish]

end Writes

/-! ## Texts -/

/-- Where nothing continues an atom at its end, the text writes the forms. -/
def Spells (depth : Nat) (text : List Char) (forms : List Form) : Prop :=
  ∀ rest, Ends rest → ∃ tokens, Writes depth tokens forms ∧
    tokenize (text ++ rest) = (tokenize rest).map (tokens ++ ·)

namespace Spells

variable {depth : Nat} {text text' : List Char} {forms forms' : List Form} {f : Form}

theorem nil (depth : Nat) : Spells depth [] [] :=
  fun _ _ ↦ ⟨[], .nil depth, Option.map_id'.symm⟩

theorem atom {word : List Char} (hne : word ≠ []) (hplain : ∀ c ∈ word, classify c = .plain)
    (hatom : atomForm (String.ofList word) = .ok f) : Spells depth word [f] :=
  fun _ hrest ↦ ⟨_, .atom hatom (.nil depth), tokenize_atom hne hplain hrest⟩

theorem gap (hspells : Spells depth text forms) {c : Char} (hc : classify c = .separator) :
    Spells depth (c :: text) forms := by
  intro rest hrest
  obtain ⟨tokens, hwrites, htokens⟩ := hspells rest hrest
  refine ⟨tokens, hwrites, ?_⟩
  rw [List.cons_append, tokenize_separator hc, htokens]

/-- Parts write their forms one after another if an atom at the end of the first is not continued by
the second. -/
theorem append (hfirst : Spells depth text forms) (hsecond : Spells depth text' forms')
    (hends : Ends text') : Spells depth (text ++ text') (forms ++ forms') := by
  intro rest hrest
  obtain ⟨tokens, hwrites, htokens⟩ := hfirst (text' ++ rest) (hends.append hrest)
  obtain ⟨tokens', hwrites', htokens'⟩ := hsecond rest hrest
  refine ⟨tokens ++ tokens', hwrites.append hwrites', ?_⟩
  rw [List.append_assoc, htokens, htokens', Option.map_map]
  congr 1
  funext more
  simp

/-- Whatever follows a closing bracket, it continues nothing. -/
theorem enclosed {inner rest : List Char} {items : List Form} (b : Bracket)
    (hinner : Spells depth inner items) (hform : OpenCollection.form ⟨b, items.reverse⟩ = .ok f)
    (hrest : Spells (depth + 1) rest forms) :
    Spells (depth + 1) (b.opening :: (inner ++ b.closing :: rest)) (f :: forms) := by
  intro tail htail
  have hends : Ends (b.closing :: (rest ++ tail)) := by
    intro c hc
    obtain rfl := Option.some.inj hc
    rw [classify_closing]
    exact nofun
  obtain ⟨tokens, hwrites, htokens⟩ := hinner (b.closing :: (rest ++ tail)) hends
  obtain ⟨tokens', hwrites', htokens'⟩ := hrest tail htail
  refine ⟨_, .collection b hwrites hform hwrites', ?_⟩
  have hassoc : b.opening :: (inner ++ b.closing :: rest) ++ tail =
      b.opening :: (inner ++ b.closing :: (rest ++ tail)) := by
    simp
  rw [hassoc, tokenize_opening, htokens, tokenize_closing, htokens', Option.map_map,
    Option.map_map, Option.map_map]
  congr 1
  funext more
  simp

/-- A text that writes one form is read as that form. -/
theorem read {s : String} (hspells : Spells depth s.toList [f]) (hdepth : depth ≤ maxDepth) :
    Edn.read s = .ok f := by
  obtain ⟨tokens, hwrites, htokens⟩ := hspells [] nofun
  rw [List.append_nil, tokenize_nil, Option.map_some, List.append_nil] at htokens
  rw [Edn.read, readChars, htokens]
  simp only [(hwrites.mono hdepth).read]

end Spells

/-! ## Integers -/

theorem classify_of_isDigit {c : Char} (hc : c.isDigit) : classify c = .plain := by
  have hblank := Numeral.isBlank_of_isDigit hc
  unfold classify
  split
  case h_9 => rw [hblank, if_neg Bool.false_ne_true]
  all_goals simp at hc

theorem looksNumeric_of_denotes {s : List Char} {n : Int} (hdenotes : Denotes s n) :
    looksNumeric s := by
  cases hdenotes with
  | unsigned hdigits =>
    obtain ⟨c, rest, rfl⟩ := List.exists_cons_of_ne_nil hdigits.ne_nil
    simp [looksNumeric, hdigits.digit c List.mem_cons_self]
  | plus hdigits | minus hdigits =>
    obtain ⟨c, rest, rfl⟩ := List.exists_cons_of_ne_nil hdigits.ne_nil
    simp [looksNumeric, hdigits.digit c List.mem_cons_self]

theorem classify_of_mem_denotes {s : List Char} {n : Int} (hdenotes : Denotes s n) :
    ∀ c ∈ s, classify c = .plain :=
  hdenotes.forall_mem (fun _ hc ↦ classify_of_isDigit hc) rfl rfl

theorem atomForm_of_denotes {s : List Char} {v : Int64} (hdenotes : Denotes s v.toInt) :
    atomForm (String.ofList s) = .ok (.int v) := by
  obtain ⟨c, rest, rfl, hc⟩ := hdenotes.exists_cons
  have hnumeric := looksNumeric_of_denotes hdenotes
  have hread := Numeral.readInt64_eq_some.2 hdenotes
  unfold atomForm
  rw [String.toList_ofList]
  split
  case h_6 => rw [if_pos hnumeric, hread]
  case h_1 heq | h_2 heq | h_3 heq | h_4 heq | h_5 _ heq =>
    obtain ⟨rfl, _⟩ := List.cons.inj heq
    simp at hc

/-! ## Collections -/

theorem pairUpOnto_flatMap (pairs items : List (Form × Form)) :
    pairUpOnto pairs (items.flatMap fun p ↦ [p.1, p.2]) = some (pairs.reverse ++ items) := by
  induction items generalizing pairs with
  | nil => simp [pairUpOnto]
  | cons p rest ih =>
    have hcons : (p :: rest).flatMap (fun p ↦ [p.1, p.2]) =
        p.1 :: p.2 :: rest.flatMap fun p ↦ [p.1, p.2] := rfl
    rw [hcons, pairUpOnto, ih, List.reverse_cons, List.append_assoc]
    rfl

end Turnstile.Edn
