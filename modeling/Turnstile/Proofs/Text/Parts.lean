import Mathlib.Data.List.Basic
import Mathlib.Data.List.TakeWhile
import Turnstile.Text.Blank

/-!
# Parts of texts

White space around a text is gone once it is trimmed, and the characters of parts with a separator
between them are those of the parts and of the separator.  The words of a text have no white space to be
trimmed: they are the maximal runs of its other characters.
-/

namespace Turnstile.Text

variable {pre post s : List Char}

theorem trimStart_append (hpre : ∀ c ∈ pre, isBlank c) (s : List Char) :
    trimStart (pre ++ s) = trimStart s :=
  List.dropWhile_append_of_pos hpre

theorem trimStart_of_blank (hpre : ∀ c ∈ pre, isBlank c) : trimStart pre = [] := by
  rw [← List.append_nil pre, trimStart_append hpre]
  rfl

theorem trimEnd_append (hpost : ∀ c ∈ post, isBlank c) (s : List Char) :
    trimEnd (s ++ post) = trimEnd s := by
  unfold trimEnd
  rw [List.reverse_append, List.dropWhile_append_of_pos]
  exact fun c hc ↦ hpost c (List.mem_reverse.1 hc)

/-- White space around a text is trimmed away. -/
theorem trim_pad (hpre : ∀ c ∈ pre, isBlank c) (hpost : ∀ c ∈ post, isBlank c) :
    trim (pre ++ s ++ post) = trim s := by
  rw [trim, List.append_assoc, trimStart_append hpre, trimStart, List.dropWhile_append]
  split
  case isTrue hnone =>
    have hs : trimStart s = [] := List.isEmpty_iff.1 hnone
    have hpost' : post.dropWhile isBlank = [] := trimStart_of_blank hpost
    rw [trim, hs, hpost']
  case isFalse => rw [trimEnd_append hpost, trim, trimStart]

/-- What is true of the characters of the parts and of those between them is true of all. -/
theorem forall_mem_intercalate {P : Char → Prop} {separator : List Char} {parts : List (List Char)}
    (hseparator : ∀ c ∈ separator, P c) (hparts : ∀ part ∈ parts, ∀ c ∈ part, P c) :
    ∀ c ∈ separator.intercalate parts, P c := by
  induction parts with
  | nil => exact fun c hc ↦ absurd hc List.not_mem_nil
  | cons part rest ih =>
    have hpart := hparts part List.mem_cons_self
    cases rest with
    | nil =>
      rw [List.intercalate_singleton]
      exact hpart
    | cons next more =>
      have hrest := ih fun part' hmem ↦ hparts part' (List.mem_cons_of_mem part hmem)
      rw [List.intercalate_cons_cons]
      intro c hc
      rw [List.mem_append, List.mem_append] at hc
      obtain (hfirst | hbetween) | hlater := hc
      · exact hpart c hfirst
      · exact hseparator c hbetween
      · exact hrest c hlater

/-- A text is what is left of it when it is trimmed, with white space around. -/
theorem exists_pad_trim (s : List Char) :
    ∃ pre post, s = pre ++ trim s ++ post ∧ (∀ c ∈ pre, isBlank c) ∧ ∀ c ∈ post, isBlank c := by
  refine ⟨s.takeWhile isBlank, ((trimStart s).reverse.takeWhile isBlank).reverse, ?_,
    fun _ hc ↦ List.mem_takeWhile_imp hc,
    fun _ hc ↦ List.mem_takeWhile_imp (List.mem_reverse.1 hc)⟩
  rw [trim, trimEnd, List.append_assoc, ← List.reverse_append, List.takeWhile_append_dropWhile,
    List.reverse_reverse, trimStart, List.takeWhile_append_dropWhile]

/-- There is nothing to trim between characters that are not white space. -/
theorem trim_between {first last : Char} (hfirst : isBlank first = false)
    (hlast : isBlank last = false) (s : List Char) :
    trim (first :: (s ++ [last])) = first :: (s ++ [last]) := by
  have hstart : trimStart (first :: (s ++ [last])) = first :: (s ++ [last]) :=
    List.dropWhile_cons_of_neg (by simp [hfirst])
  rw [trim, hstart, trimEnd, ← List.cons_append, List.reverse_concat,
    List.dropWhile_cons_of_neg (by simp [hlast]), List.reverse_cons, List.reverse_reverse]

/-! ## Up to a delimiter -/

theorem takeWhile_ne_append {d : Char} (hs : d ∉ s) (rest : List Char) :
    (s ++ rest).takeWhile (· ≠ d) = s ++ rest.takeWhile (· ≠ d) :=
  List.takeWhile_append_of_pos fun _ hc ↦ decide_eq_true (ne_of_mem_of_not_mem hc hs)

theorem dropWhile_ne_append {d : Char} (hs : d ∉ s) (rest : List Char) :
    (s ++ rest).dropWhile (· ≠ d) = rest.dropWhile (· ≠ d) :=
  List.dropWhile_append_of_pos fun _ hc ↦ decide_eq_true (ne_of_mem_of_not_mem hc hs)

theorem notMem_takeWhile_ne (d : Char) (s : List Char) : d ∉ s.takeWhile (· ≠ d) :=
  fun hmem ↦ by simpa using List.mem_takeWhile_imp hmem

/-! ## Words -/

/-- One or more characters, none of them white space. -/
structure IsWord (word : List Char) : Prop where
  ne_nil : word ≠ []
  unbroken : ∀ c ∈ word, isBlank c = false

theorem IsWord.trim (hs : IsWord s) : Text.trim s = s := by
  have hstart : trimStart s = s := by
    obtain ⟨c, rest, rfl⟩ := List.exists_cons_of_ne_nil hs.ne_nil
    exact List.dropWhile_cons_of_neg (by simp [hs.unbroken c List.mem_cons_self])
  obtain ⟨front, c, rfl⟩ := (List.eq_nil_or_concat' s).resolve_left hs.ne_nil
  have hc : isBlank c = false := hs.unbroken c (by simp)
  rw [Text.trim, hstart, trimEnd, List.reverse_concat, List.dropWhile_cons_of_neg (by simp [hc]),
    List.reverse_cons, List.reverse_reverse]

/-- There is nothing to trim where no character is white space. -/
theorem trim_of_unbroken (hs : ∀ c ∈ s, isBlank c = false) : trim s = s := by
  cases s with
  | nil => rfl
  | cons c rest => exact IsWord.trim ⟨List.cons_ne_nil c rest, hs⟩

theorem isWord_reverse {word : List Char} (hword : ∀ c ∈ word, isBlank c = false)
    (hne : word.isEmpty = false) : IsWord word.reverse where
  ne_nil := by simpa using hne
  unbroken c hc := hword c (List.mem_reverse.1 hc)

theorem isWord_of_mem_wordsFrom {found : List (List Char)} {word : List Char}
    (hfound : ∀ w ∈ found, IsWord w) (hword : ∀ c ∈ word, isBlank c = false) :
    ∀ w ∈ wordsFrom found word s, IsWord w := by
  induction s generalizing found word with
  | nil =>
    unfold wordsFrom
    intro w hw
    rw [List.mem_reverse] at hw
    cases hempty : word.isEmpty with
    | true =>
      rw [hempty, if_pos rfl] at hw
      exact hfound w hw
    | false =>
      rw [hempty, if_neg Bool.false_ne_true] at hw
      exact (List.forall_mem_cons (p := IsWord)).2 ⟨isWord_reverse hword hempty, hfound⟩ w hw
  | cons c rest ih =>
    unfold wordsFrom
    cases hc : isBlank c with
    | true =>
      rw [if_pos rfl]
      cases hempty : word.isEmpty with
      | true => exact ih hfound nofun
      | false =>
        exact ih ((List.forall_mem_cons (p := IsWord)).2 ⟨isWord_reverse hword hempty, hfound⟩) nofun
    | false =>
      rw [if_neg Bool.false_ne_true]
      exact ih hfound (List.forall_mem_cons.2 ⟨hc, hword⟩)

/-- The words of a text are never empty and hold no white space. -/
theorem isWord_of_mem_words (s : List Char) : ∀ word ∈ words s, IsWord word :=
  isWord_of_mem_wordsFrom nofun nofun

/-- The text is the words in their order, with white space between them and anywhere around. -/
inductive Splits : List Char → List (List Char) → Prop
  | nil : Splits [] []
  | blank {c : Char} {rest : List Char} {found : List (List Char)} (hc : isBlank c)
      (hrest : Splits rest found) : Splits (c :: rest) found
  | word {word rest : List Char} {found : List (List Char)} (hword : IsWord word)
      (hends : ∀ c ∈ rest.head?, isBlank c) (hrest : Splits rest found) :
      Splits (word ++ rest) (word :: found)

/-- Before the words of what follows come those found already, and one that has been begun. -/
theorem splits_wordsFrom (found : List (List Char)) {word : List Char}
    (hword : ∀ c ∈ word, isBlank c = false) (s : List Char) :
    ∃ more, wordsFrom found word s = found.reverse ++ more ∧ Splits (word.reverse ++ s) more := by
  induction s generalizing found word with
  | nil =>
    cases hempty : word.isEmpty with
    | true =>
      obtain rfl := List.isEmpty_iff.1 hempty
      exact ⟨[], by simp [wordsFrom], .nil⟩
    | false =>
      refine ⟨[word.reverse], by simp [wordsFrom, hempty], ?_⟩
      exact .word (isWord_reverse hword hempty) (fun _ hc ↦ absurd hc (Option.not_mem_none _)) .nil
  | cons c rest ih =>
    cases hc : isBlank c with
    | true =>
      have hnone : ∀ c ∈ ([] : List Char), isBlank c = false := List.forall_mem_nil _
      cases hempty : word.isEmpty with
      | true =>
        obtain rfl := List.isEmpty_iff.1 hempty
        obtain ⟨more, hmore, hsplits⟩ := ih found hnone
        exact ⟨more, by simpa [wordsFrom, hc] using hmore, .blank hc hsplits⟩
      | false =>
        obtain ⟨more, hmore, hsplits⟩ := ih (word.reverse :: found) hnone
        refine ⟨word.reverse :: more, by simpa [wordsFrom, hc, hempty] using hmore, ?_⟩
        exact .word (isWord_reverse hword hempty) (fun _ hc' ↦ Option.some.inj hc' ▸ hc)
          (.blank hc hsplits)
    | false =>
      obtain ⟨more, hmore, hsplits⟩ := ih found (List.forall_mem_cons.2 ⟨hc, hword⟩)
      refine ⟨more, by simpa [wordsFrom, hc] using hmore, ?_⟩
      simpa using hsplits

theorem wordsFrom_append {word : List Char} (hword : ∀ c ∈ word, isBlank c = false)
    (found : List (List Char)) (begun rest : List Char) :
    wordsFrom found begun (word ++ rest) = wordsFrom found (word.reverse ++ begun) rest := by
  induction word generalizing begun with
  | nil => rfl
  | cons c more ih =>
    obtain ⟨hc, hmore⟩ := List.forall_mem_cons.1 hword
    rw [List.cons_append, wordsFrom, if_neg (by simp [hc]), ih hmore, List.reverse_cons,
      List.append_assoc]
    rfl

theorem Splits.wordsFrom {more : List (List Char)} (hsplits : Splits s more)
    (found : List (List Char)) : Text.wordsFrom found [] s = found.reverse ++ more := by
  induction hsplits generalizing found with
  | nil => simp [Text.wordsFrom]
  | blank hc hrest ih => rw [Text.wordsFrom, if_pos hc, if_pos (by rfl), ih]
  | @word word rest more hword hends hrest ih =>
    have hne : word.reverse.isEmpty = false := by simpa using hword.ne_nil
    rw [wordsFrom_append hword.unbroken, List.append_nil]
    cases rest with
    | nil =>
      have hlast := ih (word :: found)
      rw [Text.wordsFrom, if_pos (by rfl)] at hlast
      rw [Text.wordsFrom, if_neg (by simp [hne]), List.reverse_reverse, hlast]
      simp
    | cons c rest =>
      have hc : isBlank c := hends c rfl
      have hbroken := ih (word :: found)
      rw [Text.wordsFrom, if_pos hc, if_pos (by rfl)] at hbroken
      rw [Text.wordsFrom, if_pos hc, if_neg (by simp [hne]), List.reverse_reverse, hbroken]
      simp

/-- The words of a text are what it splits into. -/
theorem words_eq_iff {found : List (List Char)} : words s = found ↔ Splits s found := by
  constructor
  · rintro rfl
    obtain ⟨more, hmore, hsplits⟩ := splits_wordsFrom [] (List.forall_mem_nil _) s
    rw [words, hmore]
    exact hsplits
  · exact fun hsplits ↦ hsplits.wordsFrom []

end Turnstile.Text
