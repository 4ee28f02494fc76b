import Mathlib.Data.List.Basic
import Turnstile.Edn.Token

/-!
# Texts and their tokens

The lexer keeps what it has read so far, but no step depends on the tokens that are complete.  So the
tokens of a text are found from its start: a separator gives none, a bracket gives itself, and an atom
is a run of plain characters that ends where something else begins, or with the text.
-/

namespace Turnstile.Edn

namespace Lexing

variable {tokens : List Token}

theorem enter_append (tokens : List Token) (c : Char) :
    enter tokens c = ((enter [] c).1 ++ tokens, (enter [] c).2) := by
  unfold enter
  cases classify c <;> rfl

theorem step_append (tokens : List Token) (place : Lexing) (c : Char) :
    step (tokens, place) c = ((step ([], place) c).1 ++ tokens, (step ([], place) c).2) := by
  cases place with
  | outside => exact enter_append tokens c
  | inAtom read =>
    simp only [step]
    split
    case h_1 => rfl
    case h_2 =>
      rw [enter_append, enter_append [_]]
      simp
  | inString read =>
    simp only [step]
    split <;> rfl
  | afterBackslash read => rfl

theorem finish_append (more tokens : List Token) (place : Lexing) :
    finish (more ++ tokens, place) = (finish (more, place)).map (tokens.reverse ++ ·) := by
  cases place <;> simp [finish]

/-- The tokens that are complete come before those of the text that follows. -/
theorem finish_foldl (tokens : List Token) (place : Lexing) (text : List Char) :
    finish (text.foldl step (tokens, place)) =
      (finish (text.foldl step ([], place))).map (tokens.reverse ++ ·) := by
  induction text generalizing tokens place with
  | nil => exact finish_append [] tokens place
  | cons c rest ih =>
    rw [List.foldl_cons, List.foldl_cons, step_append, ih, ih (step ([], place) c).1, Option.map_map]
    congr 1
    funext more
    simp

/-- Plain characters continue an atom. -/
theorem foldl_inAtom {word : List Char} (hplain : ∀ c ∈ word, classify c = .plain)
    (read : List Char) :
    word.foldl step (tokens, .inAtom read) = (tokens, .inAtom (word.reverse ++ read)) := by
  induction word generalizing read with
  | nil => rfl
  | cons c rest ih =>
    obtain ⟨hc, hrest⟩ := List.forall_mem_cons.1 hplain
    have hstep : step (tokens, .inAtom read) c = (tokens, .inAtom (c :: read)) := by
      simp only [step, hc]
    rw [List.foldl_cons, hstep, ih hrest, List.reverse_cons, List.append_assoc]
    rfl

end Lexing

variable {c : Char} {rest : List Char}

theorem tokenize_nil : tokenize [] = some [] := rfl

theorem tokenize_separator (hc : classify c = .separator) (rest : List Char) :
    tokenize (c :: rest) = tokenize rest := by
  unfold tokenize
  rw [List.foldl_cons, Lexing.step, Lexing.enter, hc]

theorem classify_opening (b : Bracket) : classify b.opening = .opening b := by
  cases b <;> rfl

theorem classify_closing (b : Bracket) : classify b.closing = .closing b := by
  cases b <;> rfl

theorem tokenize_opening (b : Bracket) (rest : List Char) :
    tokenize (b.opening :: rest) = (tokenize rest).map (.opening b :: ·) := by
  unfold tokenize
  rw [List.foldl_cons, Lexing.step, Lexing.enter, classify_opening]
  exact Lexing.finish_foldl [.opening b] .outside rest

theorem tokenize_closing (b : Bracket) (rest : List Char) :
    tokenize (b.closing :: rest) = (tokenize rest).map (.closing b :: ·) := by
  unfold tokenize
  rw [List.foldl_cons, Lexing.step, Lexing.enter, classify_closing]
  exact Lexing.finish_foldl [.closing b] .outside rest

/-- The text does not start with a character that would continue an atom. -/
def Ends (text : List Char) : Prop :=
  ∀ c ∈ text.head?, classify c ≠ .plain

theorem Ends.append {text : List Char} (htext : Ends text) (hrest : Ends rest) :
    Ends (text ++ rest) := by
  cases text with
  | nil => exact hrest
  | cons c more => exact htext

/-- A run of plain characters is an atom where nothing continues it. -/
theorem tokenize_atom {word : List Char} (hne : word ≠ [])
    (hplain : ∀ c ∈ word, classify c = .plain) (hrest : Ends rest) :
    tokenize (word ++ rest) = (tokenize rest).map (.atom (String.ofList word) :: ·) := by
  obtain ⟨first, more, rfl⟩ := List.exists_cons_of_ne_nil hne
  obtain ⟨hfirst, hmore⟩ := List.forall_mem_cons.1 hplain
  have hread : (first :: more).foldl Lexing.step ([], .outside) =
      ([], .inAtom (more.reverse ++ [first])) := by
    rw [List.foldl_cons, Lexing.step, Lexing.enter, hfirst]
    exact Lexing.foldl_inAtom hmore [first]
  have hword : (more.reverse ++ [first]).reverse = first :: more := by simp
  unfold tokenize
  rw [List.foldl_append, hread]
  cases rest with
  | nil => simp [Lexing.finish]
  | cons c rest =>
    have hc : classify c ≠ .plain := hrest c rfl
    -- The character that ends the atom is met outside any token.
    have hleave : Lexing.step ([], .inAtom (more.reverse ++ [first])) c =
        Lexing.step ([.atom (String.ofList (first :: more))], .outside) c := by
      simp only [Lexing.step, hword]
    rw [List.foldl_cons, hleave]
    exact Lexing.finish_foldl [.atom (String.ofList (first :: more))] .outside (c :: rest)

end Turnstile.Edn
