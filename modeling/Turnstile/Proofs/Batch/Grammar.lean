import Turnstile.Batch
import Turnstile.Proofs.Text.Parts

/-!
# The grammar of batches

A batch is a document in brackets with white space around it, and between the brackets operations, each
in brackets of its own, again with white space anywhere around them.  The grammar derives it from its
characters.  A document in brackets that it does not derive starts with operations all the same, maybe
none, and then comes the leftmost element that is none: where it starts, the reader stops with the fault
of that element.
-/

namespace Turnstile.Batch

open Text (Splits isBlank)

/-! ## Documents -/

/-- The outer brackets of a document. -/
def Encloses (document inner : List Char) : Prop :=
  ∃ before after, document = before ++ '[' :: (inner ++ ']' :: after) ∧
    (∀ c ∈ before, isBlank c) ∧ ∀ c ∈ after, isBlank c

/-- No bracket stands in the text. -/
def Unbracketed (content : List Char) : Prop :=
  '[' ∉ content ∧ ']' ∉ content

/-- What stands between the brackets of an operation. -/
inductive Element : List Char → Operation → Prop
  | append {content key value : List Char} (hplain : Unbracketed content)
      (hwords : Splits content [":append".toList, key, value]) :
      Element content (.append (String.ofList key) (String.ofList value))
  | read {content key : List Char} (hplain : Unbracketed content)
      (hwords : Splits content [":r".toList, key, "nil".toList]) :
      Element content (.read (String.ofList key))

/-- The text is elements one after another, with white space anywhere around them. -/
inductive Elements : List Char → List Operation → Prop
  | nil : Elements [] []
  | gap {c : Char} {rest : List Char} {operations : List Operation} (hc : isBlank c)
      (hrest : Elements rest operations) : Elements (c :: rest) operations
  | element {content rest : List Char} {operation : Operation} {operations : List Operation}
      (helement : Element content operation) (hrest : Elements rest operations) :
      Elements ('[' :: (content ++ ']' :: rest)) (operation :: operations)

/-- Why what stands between brackets, up to the first that closes, is no operation. -/
inductive Faulty : List Char → Fault → Prop
  | nested {content : List Char} (hopening : '[' ∈ content) :
      Faulty content (.nested (String.ofList content))
  | wordCount {content : List Char} {words : List (List Char)} (hplain : '[' ∉ content)
      (hwords : Splits content words) (hcount : words.length ≠ 3) :
      Faulty content (.wordCount (String.ofList content) words.length)
  | readWithValue {content key value : List Char} (hplain : '[' ∉ content)
      (hwords : Splits content [":r".toList, key, value]) (hvalue : value ≠ "nil".toList) :
      Faulty content (.readWithValue (String.ofList key) (String.ofList value))
  | unknown {content name key value : List Char} (hplain : '[' ∉ content)
      (hwords : Splits content [name, key, value]) (hread : name ≠ ":r".toList)
      (happend : name ≠ ":append".toList) : Faulty content (.unknown (String.ofList name))

/-- The text starts with something that is no element. -/
inductive Offends : List Char → Fault → Prop
  | unopened {c : Char} {rest : List Char} (hblank : isBlank c = false) (hc : c ≠ '[') :
      Offends (c :: rest) (.notOpened (excerpt (c :: rest)))
  | unclosed {rest : List Char} (hclosing : ']' ∉ rest) :
      Offends ('[' :: rest) (.notClosed (excerpt ('[' :: rest)))
  | element {content rest : List Char} {fault : Fault} (hclosing : ']' ∉ content)
      (hfaulty : Faulty content fault) : Offends ('[' :: (content ++ ']' :: rest)) fault

/-- After some elements, maybe none, comes the leftmost one that is none. -/
def Stops (inner : List Char) (fault : Fault) : Prop :=
  ∃ written rest operations, inner = written ++ rest ∧ Elements written operations ∧
    Offends rest fault

/-! ## Operations -/

variable {content s : List Char} {operation : Operation} {operations before : List Operation}
  {fault : Fault}

theorem ofWords_read (key value : List Char) :
    ofWords ":r".toList key value =
      if value = "nil".toList then .ok (.read (String.ofList key))
      else .error (.readWithValue (String.ofList key) (String.ofList value)) :=
  rfl

theorem ofWords_append (key value : List Char) :
    ofWords ":append".toList key value = .ok (.append (String.ofList key) (String.ofList value)) :=
  rfl

theorem ofWords_other {name : List Char} (hread : name ≠ ":r".toList)
    (happend : name ≠ ":append".toList) (key value : List Char) :
    ofWords name key value = .error (.unknown (String.ofList name)) := by
  unfold ofWords
  split
  case h_1 => exact absurd rfl hread
  case h_2 => exact absurd rfl happend
  case h_3 => rfl

theorem parseElement_of_words {name key value : List Char} (hplain : '[' ∉ content)
    (hwords : Splits content [name, key, value]) : parseElement content = ofWords name key value := by
  have hnested : ¬ content.contains '[' := by simpa using hplain
  rw [parseElement, if_neg hnested, Text.words_eq_iff.2 hwords]

theorem parseElement_of_count {words : List (List Char)} (hplain : '[' ∉ content)
    (hwords : Splits content words) (hcount : words.length ≠ 3) :
    parseElement content = .error (.wordCount (String.ofList content) words.length) := by
  have hnested : ¬ content.contains '[' := by simpa using hplain
  rw [parseElement, if_neg hnested, Text.words_eq_iff.2 hwords]
  split
  case h_1 => exact absurd rfl hcount
  case h_2 => rfl

/-- What stands before the first bracket that closes is an operation or has a fault. -/
theorem element_or_faulty (hclosing : ']' ∉ content) :
    (∃ operation, parseElement content = .ok operation ∧ Element content operation) ∨
      ∃ fault, parseElement content = .error fault ∧ Faulty content fault := by
  by_cases hplain : '[' ∈ content
  · have hnested : content.contains '[' := by simpa using hplain
    refine .inr ⟨_, ?_, .nested hplain⟩
    rw [parseElement, if_pos hnested]
  · have hsplits := Text.words_eq_iff.1 (rfl : Text.words content = Text.words content)
    by_cases hcount : (Text.words content).length = 3
    · obtain ⟨name, key, value, hwords⟩ := List.length_eq_three.1 hcount
      rw [hwords] at hsplits
      rw [parseElement_of_words hplain hsplits]
      by_cases hread : name = ":r".toList
      · subst hread
        rw [ofWords_read]
        split
        case isTrue hvalue =>
          subst hvalue
          exact .inl ⟨_, rfl, .read ⟨hplain, hclosing⟩ hsplits⟩
        case isFalse hvalue => exact .inr ⟨_, rfl, .readWithValue hplain hsplits hvalue⟩
      · by_cases happend : name = ":append".toList
        · subst happend
          exact .inl ⟨_, ofWords_append key value, .append ⟨hplain, hclosing⟩ hsplits⟩
        · exact .inr ⟨_, ofWords_other hread happend key value, .unknown hplain hsplits hread happend⟩
    · exact .inr ⟨_, parseElement_of_count hplain hsplits hcount, .wordCount hplain hsplits hcount⟩

theorem Element.parse (helement : Element content operation) :
    parseElement content = .ok operation := by
  cases helement with
  | append hplain hwords => exact parseElement_of_words hplain.1 hwords
  | read hplain hwords => exact parseElement_of_words hplain.1 hwords

theorem Element.closing (helement : Element content operation) : ']' ∉ content := by
  cases helement with
  | append hplain | read hplain => exact hplain.2

theorem Element.of_parse (hclosing : ']' ∉ content) (hparse : parseElement content = .ok operation) :
    Element content operation := by
  obtain ⟨found, hfound, helement⟩ | ⟨fault, hfault, _⟩ := element_or_faulty hclosing
  · obtain rfl := Except.ok.inj (hparse.symm.trans hfound)
    exact helement
  · simp [hfault] at hparse

theorem Faulty.of_parse (hclosing : ']' ∉ content) (hparse : parseElement content = .error fault) :
    Faulty content fault := by
  obtain ⟨operation, hfound, _⟩ | ⟨found, hfound, hfaulty⟩ := element_or_faulty hclosing
  · simp [hfound] at hparse
  · obtain rfl := Except.error.inj (hparse.symm.trans hfound)
    exact hfaulty

theorem Faulty.parse (hfaulty : Faulty content fault) : parseElement content = .error fault := by
  cases hfaulty with
  | nested hopening => rw [parseElement, if_pos (by simpa using hopening)]
  | wordCount hplain hwords hcount => exact parseElement_of_count hplain hwords hcount
  | readWithValue hplain hwords hvalue =>
    rw [parseElement_of_words hplain hwords, ofWords_read, if_neg hvalue]
  | unknown hplain hwords hread happend =>
    rw [parseElement_of_words hplain hwords, ofWords_other hread happend]

/-! ## Elements -/

theorem Elements.gaps {pre : List Char} (hpre : ∀ c ∈ pre, isBlank c) (hs : Elements s operations) :
    Elements (pre ++ s) operations := by
  induction pre with
  | nil => exact hs
  | cons c pre ih =>
    obtain ⟨hc, hmore⟩ := List.forall_mem_cons.1 hpre
    exact .gap hc (ih hmore)

theorem Stops.gaps {pre : List Char} (hpre : ∀ c ∈ pre, isBlank c) (hs : Stops s fault) :
    Stops (pre ++ s) fault := by
  obtain ⟨written, rest, operations, rfl, hwritten, hrest⟩ := hs
  exact ⟨pre ++ written, rest, operations, (List.append_assoc _ _ _).symm, hwritten.gaps hpre, hrest⟩

theorem Stops.element (helement : Element content operation) (hs : Stops s fault) :
    Stops ('[' :: (content ++ ']' :: s)) fault := by
  obtain ⟨written, rest, operations, rfl, hwritten, hrest⟩ := hs
  exact ⟨'[' :: (content ++ ']' :: written), rest, operation :: operations, by simp,
    .element helement hwritten, hrest⟩

theorem Offends.stops (hs : Offends s fault) : Stops s fault :=
  ⟨[], s, [], rfl, .nil, hs⟩

theorem exists_pad_trimStart (s : List Char) :
    ∃ pre, (∀ c ∈ pre, isBlank c) ∧ s = pre ++ Text.trimStart s :=
  ⟨s.takeWhile isBlank, fun _ hc ↦ List.mem_takeWhile_imp hc, List.takeWhile_append_dropWhile.symm⟩

/-- What is found first is not skipped. -/
theorem not_of_dropWhile {p : Char → Bool} {c : Char} {rest : List Char}
    (hrest : s.dropWhile p = c :: rest) : p c = false := by
  have hhead := List.head_dropWhile_not p (l := s) (by simp [hrest])
  simpa [hrest] using hhead

/-- A text is the part before its first closing bracket, the bracket and the rest. -/
theorem split_at_closing {c : Char} {rest : List Char} (hrest : s.dropWhile (· ≠ ']') = c :: rest) :
    s = s.takeWhile (· ≠ ']') ++ ']' :: rest ∧ ']' ∉ s.takeWhile (· ≠ ']') := by
  have hc : c = ']' := by simpa using not_of_dropWhile hrest
  refine ⟨?_, Text.notMem_takeWhile_ne ']' s⟩
  calc s
    _ = s.takeWhile (· ≠ ']') ++ s.dropWhile (· ≠ ']') := List.takeWhile_append_dropWhile.symm
    _ = _ := by rw [hrest, hc]

/-- The part before the first closing bracket is found. -/
theorem takeWhile_closing (hclosing : ']' ∉ content) (rest : List Char) :
    (content ++ ']' :: rest).takeWhile (· ≠ ']') = content ∧
      (content ++ ']' :: rest).dropWhile (· ≠ ']') = ']' :: rest := by
  rw [Text.takeWhile_ne_append hclosing, Text.dropWhile_ne_append hclosing]
  simp

/-- The reader comes to the end of the elements or stops at the leftmost that is none. -/
theorem elements_or_stops (before : List Operation) (s : List Char) :
    (∃ more, parseElements before s = .ok (before.reverse ++ more) ∧ Elements s more) ∨
      ∃ fault, parseElements before s = .error fault ∧ Stops s fault := by
  fun_induction parseElements before s with
  | case1 before s htrim =>
    obtain ⟨pre, hpre, hs⟩ := exists_pad_trimStart s
    refine .inl ⟨[], by simp, ?_⟩
    rw [hs, htrim]
    exact Elements.nil.gaps hpre
  | case2 before s c body htrim hc =>
    obtain ⟨pre, hpre, hs⟩ := exists_pad_trimStart s
    refine .inr ⟨_, rfl, ?_⟩
    rw [hs, htrim]
    exact (Offends.unopened (not_of_dropWhile htrim) hc).stops.gaps hpre
  | case3 before s c body htrim hc hnone =>
    obtain rfl : c = '[' := not_not.1 hc
    obtain ⟨pre, hpre, hs⟩ := exists_pad_trimStart s
    refine .inr ⟨_, rfl, ?_⟩
    rw [hs, htrim]
    have hclosing : ']' ∉ body := fun hmem ↦ by
      simpa using List.dropWhile_eq_nil_iff.1 hnone _ hmem
    exact (Offends.unclosed hclosing).stops.gaps hpre
  | case4 before s c body htrim hc closing rest hrest operation hparse ih =>
    obtain rfl : c = '[' := not_not.1 hc
    obtain ⟨pre, hpre, hs⟩ := exists_pad_trimStart s
    obtain ⟨hbody, hclosing⟩ := split_at_closing hrest
    have helement := Element.of_parse hclosing hparse
    rw [hs, htrim, hbody]
    obtain ⟨more, hmore, helements⟩ | ⟨fault, hfault, hstops⟩ := ih
    · exact .inl ⟨operation :: more, by simpa using hmore, (Elements.element helement helements).gaps hpre⟩
    · exact .inr ⟨fault, hfault, (hstops.element helement).gaps hpre⟩
  | case5 before s c body htrim hc closing rest hrest fault hparse =>
    obtain rfl : c = '[' := not_not.1 hc
    obtain ⟨pre, hpre, hs⟩ := exists_pad_trimStart s
    obtain ⟨hbody, hclosing⟩ := split_at_closing hrest
    refine .inr ⟨fault, rfl, ?_⟩
    rw [hs, htrim, hbody]
    exact (Offends.element hclosing (.of_parse hclosing hparse)).stops.gaps hpre

theorem parseElements_gap {c : Char} (hc : isBlank c) (before : List Operation) (rest : List Char) :
    parseElements before (c :: rest) = parseElements before rest := by
  have htrim : Text.trimStart (c :: rest) = Text.trimStart rest := List.dropWhile_cons_of_pos hc
  rw [parseElements, htrim]
  conv_rhs => rw [parseElements]

theorem parseElements_element {rest : List Char} (hclosing : ']' ∉ content)
    (hparse : parseElement content = .ok operation) (before : List Operation) :
    parseElements before ('[' :: (content ++ ']' :: rest)) =
      parseElements (operation :: before) rest := by
  obtain ⟨htake, hdrop⟩ := takeWhile_closing hclosing rest
  have htrim : Text.trimStart ('[' :: (content ++ ']' :: rest)) = '[' :: (content ++ ']' :: rest) := rfl
  rw [parseElements, htrim]
  dsimp only
  rw [if_neg (not_not_intro rfl), hdrop]
  simp only [htake, hparse]

/-- Elements are read wherever they stand. -/
theorem Elements.parse {written : List Char} (hwritten : Elements written operations)
    (before : List Operation) (rest : List Char) :
    parseElements before (written ++ rest) = parseElements (operations.reverse ++ before) rest := by
  induction hwritten generalizing before with
  | nil => rfl
  | gap hc hrest ih => rw [List.cons_append, parseElements_gap hc, ih]
  | element helement hrest ih =>
    rw [List.cons_append, List.append_assoc, List.cons_append,
      parseElements_element helement.closing helement.parse, ih, List.reverse_cons, List.append_assoc]
    rfl

theorem Offends.parse (hs : Offends s fault) (before : List Operation) :
    parseElements before s = .error fault := by
  cases hs with
  | @unopened c rest hblank hc =>
    have htrim : Text.trimStart (c :: rest) = c :: rest := List.dropWhile_cons_of_neg (by simp [hblank])
    rw [parseElements, htrim]
    exact if_pos hc
  | @unclosed rest hclosing =>
    have htrim : Text.trimStart ('[' :: rest) = '[' :: rest := rfl
    have hnone : rest.dropWhile (· ≠ ']') = [] := List.dropWhile_eq_nil_iff.2 fun c hc ↦
      decide_eq_true fun heq ↦ hclosing (heq ▸ hc)
    rw [parseElements, htrim]
    dsimp only
    rw [if_neg (not_not_intro rfl), hnone]
  | @element content rest _ hclosing hfaulty =>
    obtain ⟨htake, hdrop⟩ := takeWhile_closing hclosing rest
    have htrim : Text.trimStart ('[' :: (content ++ ']' :: rest)) = '[' :: (content ++ ']' :: rest) :=
      rfl
    rw [parseElements, htrim]
    dsimp only
    rw [if_neg (not_not_intro rfl), hdrop]
    simp only [htake, hfaulty.parse]

theorem parseElements_eq_ok {inner : List Char} :
    parseElements [] inner = .ok operations ↔ Elements inner operations := by
  constructor
  · intro hread
    obtain ⟨more, hmore, helements⟩ | ⟨fault, hfault, _⟩ := elements_or_stops [] inner
    · obtain rfl := Except.ok.inj (hread.symm.trans hmore)
      exact helements
    · simp [hfault] at hread
  · intro helements
    have hend : parseElements operations.reverse [] = .ok operations := by
      rw [parseElements, Text.trimStart, List.dropWhile_nil, List.reverse_reverse]
    have hread := helements.parse [] []
    rwa [List.append_nil, List.append_nil, hend] at hread

theorem parseElements_eq_error {inner : List Char} :
    parseElements [] inner = .error fault ↔ Stops inner fault := by
  constructor
  · intro hread
    obtain ⟨more, hmore, _⟩ | ⟨fault', hfault, hstops⟩ := elements_or_stops [] inner
    · simp [hmore] at hread
    · obtain rfl := Except.error.inj (hread.symm.trans hfault)
      exact hstops
  · rintro ⟨written, rest, operations, rfl, hwritten, hrest⟩
    rw [hwritten.parse, hrest.parse]

/-! ## The outer brackets -/

theorem unwrap_enclosed (inner : List Char) : unwrap ('[' :: (inner ++ [']'])) = some inner := by
  simp [unwrap]

theorem eq_of_unwrap {inner : List Char} (hinner : unwrap s = some inner) :
    s = '[' :: (inner ++ [']']) := by
  unfold unwrap at hinner
  split at hinner
  case h_1 rest =>
    split at hinner
    case h_1 hlast =>
      obtain rfl := Option.some.inj hinner
      obtain ⟨front, rfl⟩ := List.getLast?_eq_some_iff.1 hlast
      simp
    case h_2 => simp at hinner
  case h_2 => simp at hinner

theorem unwrap_trim_eq_some {document inner : List Char} :
    unwrap (Text.trim document) = some inner ↔ Encloses document inner := by
  constructor
  · intro hinner
    obtain ⟨before, after, hdocument, hbefore, hafter⟩ := Text.exists_pad_trim document
    rw [eq_of_unwrap hinner] at hdocument
    exact ⟨before, after, by simpa using hdocument, hbefore, hafter⟩
  · rintro ⟨before, after, rfl, hbefore, hafter⟩
    have hpad : before ++ '[' :: (inner ++ ']' :: after) = before ++ '[' :: (inner ++ [']']) ++ after := by
      simp
    rw [hpad, Text.trim_pad hbefore hafter, Text.trim_between (by decide) (by decide),
      unwrap_enclosed]

/-! ## Reading documents -/

theorem error_eq_unknown {name : String} :
    fault.error = .unknownOperation name ↔ fault = .unknown name := by
  cases fault <;> simp [Fault.error]

theorem error_eq_malformed :
    (∃ reason, fault.error = .malformedBatch reason) ↔ ∀ name, fault ≠ .unknown name := by
  cases fault <;> simp [Fault.error]

theorem parse_eq_ok {document : String} :
    parse document = .ok operations ↔
      ∃ inner, Encloses document.toList inner ∧ Elements inner operations := by
  unfold parse parseChars
  cases hinner : unwrap (Text.trim document.toList) with
  | none =>
    refine iff_of_false (by simp) ?_
    rintro ⟨inner, hencloses, _⟩
    exact absurd (unwrap_trim_eq_some.2 hencloses) (by simp [hinner])
  | some inner =>
    have hunique : ∀ inner', Encloses document.toList inner' ↔ inner = inner' := fun inner' ↦ by
      rw [← unwrap_trim_eq_some, hinner, Option.some.injEq]
    simp only [hunique, exists_eq_left', ← parseElements_eq_ok]
    cases parseElements [] inner <;> simp

theorem parse_eq_error {document : String} {e : Error} :
    parse document = .error e ↔
      (∀ inner, ¬ Encloses document.toList inner) ∧ e = Fault.notEnclosed.error ∨
        ∃ inner fault, Encloses document.toList inner ∧ Stops inner fault ∧ e = fault.error := by
  unfold parse parseChars
  cases hinner : unwrap (Text.trim document.toList) with
  | none =>
    have hnone : ∀ inner, ¬ Encloses document.toList inner := fun inner ↦ by
      rw [← unwrap_trim_eq_some, hinner]
      simp
    simp [hnone, eq_comm]
  | some inner =>
    have hunique : ∀ inner', Encloses document.toList inner' ↔ inner = inner' := fun inner' ↦ by
      rw [← unwrap_trim_eq_some, hinner, Option.some.injEq]
    simp only [hunique, exists_and_left, exists_eq_left', ← parseElements_eq_error]
    cases parseElements [] inner <;> simp [eq_comm]

/-- What a document is read as. -/
structure Recognized (document : String) : Prop where
  ok_iff : ∀ operations, parse document = .ok operations ↔
    ∃ inner, Encloses document.toList inner ∧ Elements inner operations
  unknown_iff : ∀ name, parse document = .error (.unknownOperation name) ↔
    ∃ inner, Encloses document.toList inner ∧ Stops inner (.unknown name)
  malformed_iff : (∃ reason, parse document = .error (.malformedBatch reason)) ↔
    (∀ inner, ¬ Encloses document.toList inner) ∨
      ∃ inner fault, Encloses document.toList inner ∧ Stops inner fault ∧ ∀ name, fault ≠ .unknown name
  /-- There is no other result. -/
  total : (∃ operations, parse document = .ok operations) ∨
    (∃ name, parse document = .error (.unknownOperation name)) ∨
    ∃ reason, parse document = .error (.malformedBatch reason)

/-- A document is read as the operations that the grammar derives, and fails otherwise with the fault
of its leftmost element that is no operation. -/
theorem recognized_batch (document : String) : Recognized document where
  ok_iff _ := parse_eq_ok
  unknown_iff name := by
    rw [parse_eq_error]
    constructor
    · rintro (⟨_, hother⟩ | ⟨inner, fault, hinner, hstops, hname⟩)
      · simp [Fault.error] at hother
      · exact ⟨inner, hinner, error_eq_unknown.1 hname.symm ▸ hstops⟩
    · rintro ⟨inner, hinner, hstops⟩
      exact .inr ⟨inner, _, hinner, hstops, rfl⟩
  malformed_iff := by
    simp only [parse_eq_error]
    constructor
    · rintro ⟨reason, ⟨hnone, _⟩ | ⟨inner, fault, hinner, hstops, hreason⟩⟩
      · exact .inl hnone
      · exact .inr ⟨inner, fault, hinner, hstops, error_eq_malformed.1 ⟨reason, hreason.symm⟩⟩
    · rintro (hnone | ⟨inner, fault, hinner, hstops, hother⟩)
      · exact ⟨_, .inl ⟨hnone, rfl⟩⟩
      · obtain ⟨reason, hreason⟩ := error_eq_malformed.2 hother
        exact ⟨reason, .inr ⟨inner, fault, hinner, hstops, hreason.symm⟩⟩
  total := by
    unfold parse
    cases parseChars document.toList with
    | ok operations => exact .inl ⟨operations, rfl⟩
    | error fault =>
      by_cases hunknown : ∃ name, fault = .unknown name
      · obtain ⟨name, rfl⟩ := hunknown
        exact .inr (.inl ⟨name, rfl⟩)
      · obtain ⟨reason, hreason⟩ := error_eq_malformed.2 (not_exists.1 hunknown)
        exact .inr (.inr ⟨reason, congrArg Except.error hreason⟩)

end Turnstile.Batch
