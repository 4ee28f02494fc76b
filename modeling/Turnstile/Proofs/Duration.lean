import Turnstile.Duration
import Turnstile.Proofs.Text.Numeral

/-!
# Durations that are read

A duration is written as an unsigned number and a unit that follows it directly, and all other texts are
refused.  Where the seconds of such a text fit a 64-bit word, it is read as exactly its length.  Minutes
and hours can exceed that word, and then the program is stopped.
-/

namespace Turnstile.Duration

/-- The units in which durations are written. -/
inductive Scale where
  | milliseconds
  | seconds
  | minutes
  | hours
deriving DecidableEq, Repr

namespace Scale

/-- How a unit is written. -/
def letters : Scale → List Char
  | milliseconds => ['m', 's']
  | seconds => ['s']
  | minutes => ['m']
  | hours => ['h']

/-- The length of a unit in nanoseconds. -/
def nanoseconds : Scale → Nat
  | milliseconds => 1000000
  | seconds => 1000000000
  | minutes => 60 * 1000000000
  | hours => 3600 * 1000000000

/-- So many units, exactly. -/
def times (u : Scale) (n : Nat) : Duration := ⟨n * u.nanoseconds⟩

end Scale

/-- A 64-bit number and a unit that follows it directly. -/
structure Spells (s : List Char) (n : Nat) (u : Scale) : Prop where
  fits : n ≤ maxWord
  spelled : ∃ number, s = number ++ u.letters ∧ Numeral.Unsigned number n

/-- A duration whose whole seconds fit their word is given, and any other one stops the program. -/
def checked {ε : Type} (d : Duration) : Outcome ε :=
  if d.seconds ≤ maxWord then .ok d else .panic

variable {s : List Char} {n : Nat} {u : Scale} {d : Duration} {ε : Type}

/-! ## Checked seconds -/

theorem checked_eq_ok {d' : Duration} :
    (d.checked : Outcome ε) = .ok d' ↔ d.seconds ≤ maxWord ∧ d' = d := by
  unfold checked
  split
  case isTrue hle => simp [hle, eq_comm]
  case isFalse hlt => simp [hlt]

theorem checked_eq_panic : (d.checked : Outcome ε) = .panic ↔ maxWord < d.seconds := by
  unfold checked
  split
  case isTrue hle => simp [hle]
  case isFalse hlt => simp [Nat.lt_of_not_le hlt]

theorem checked_ne_error (d : Duration) (e : ε) : d.checked ≠ .error e := by
  unfold checked
  split <;> exact nofun

theorem seconds_ofSeconds (k : Nat) : (ofSeconds k).seconds = k :=
  Nat.mul_div_cancel k (by decide)

theorem ofCheckedSeconds_eq (k : Nat) :
    (ofCheckedSeconds k : Outcome ε) = (ofSeconds k).checked := by
  rw [ofCheckedSeconds, checked, seconds_ofSeconds]

/-- Of a 64-bit number of a unit only minutes and hours are checked, but the others pass. -/
theorem checked_times (hfits : n ≤ maxWord) (u : Scale) :
    ((u.times n).checked : Outcome ε) =
      match u with
      | .milliseconds => .ok (ofMillis n)
      | .seconds => .ok (ofSeconds n)
      | .minutes => ofCheckedSeconds (n * 60)
      | .hours => ofCheckedSeconds (n * 3600) := by
  have hmany (k : Nat) : (⟨n * (k * 1000000000)⟩ : Duration) = ofSeconds (n * k) :=
    congrArg Duration.mk (Nat.mul_assoc ..).symm
  cases u with
  | milliseconds =>
    have hseconds : (ofMillis n).seconds ≤ maxWord := by
      simp only [seconds, ofMillis]
      omega
    exact checked_eq_ok.2 ⟨hseconds, rfl⟩
  | seconds => exact checked_eq_ok.2 ⟨(seconds_ofSeconds n).trans_le hfits, rfl⟩
  | minutes => exact (congrArg checked (hmany 60)).trans (ofCheckedSeconds_eq _).symm
  | hours => exact (congrArg checked (hmany 3600)).trans (ofCheckedSeconds_eq _).symm

/-! ## The unit at the end -/

/-- The unit is cut off from the end. -/
theorem splitUnit_append (s : List Char) : (splitUnit s).1 ++ (splitUnit s).2 = s := by
  unfold splitUnit
  split
  case h_1 rest hrev => simp [List.reverse_eq_iff.1 hrev]
  case h_2 c rest _ hrev => simp [List.reverse_eq_iff.1 hrev]
  case h_3 hrev => simp [List.reverse_eq_iff.1 hrev]

/-- A number is left whole. -/
theorem splitUnit_letters {number : List Char} (hnumber : Numeral.Unsigned number n) (u : Scale) :
    splitUnit (number ++ u.letters) = (number, u.letters) := by
  obtain ⟨init, c, rfl, hc⟩ := hnumber.exists_concat
  have hm : c ≠ 'm' := by
    rintro rfl
    simp at hc
  cases u <;> simp [splitUnit, Scale.letters, hm]

/-! ## Reading -/

/-- A number with a unit is so many of the unit, if the seconds fit their word. -/
theorem Spells.parseTrimmed (hspells : Spells s n u) : parseTrimmed s = (u.times n).checked := by
  obtain ⟨hfits, number, rfl, hnumber⟩ := hspells
  have hread := Numeral.readUnsigned_eq_some.2 ⟨hnumber, hfits⟩
  have hsome : (number ++ u.letters).isEmpty = false := by cases u <;> simp [Scale.letters]
  unfold Duration.parseTrimmed
  simp only [hsome, splitUnit_letters hnumber, hread, checked_times hfits]
  cases u <;> rfl

/-- Any other text is refused. -/
theorem error_or_spells (s : List Char) :
    (∃ fault, parseTrimmed s = .error fault) ∨ ∃ n u, Spells s n u := by
  have hsplit := splitUnit_append s
  unfold parseTrimmed
  split
  case isTrue => exact .inl ⟨_, rfl⟩
  case isFalse =>
    generalize splitUnit s = parts at hsplit
    obtain ⟨number, unit⟩ := parts
    simp only at hsplit ⊢
    split
    case h_1 => exact .inl ⟨_, rfl⟩
    case h_2 n hread =>
      obtain ⟨hnumber, hfits⟩ := Numeral.readUnsigned_eq_some.1 hread
      have hspells {u : Scale} (hunit : unit = u.letters) : Spells s n u :=
        ⟨hfits, number, by rw [← hsplit, hunit], hnumber⟩
      split
      case h_1 => exact .inr ⟨n, .milliseconds, hspells rfl⟩
      case h_2 => exact .inr ⟨n, .seconds, hspells rfl⟩
      case h_3 => exact .inr ⟨n, .minutes, hspells rfl⟩
      case h_4 => exact .inr ⟨n, .hours, hspells rfl⟩
      case h_5 => exact .inl ⟨_, rfl⟩

theorem Spells.parse {text : String} (hspells : Spells (Text.trim text.toList) n u) :
    parse text = (u.times n).checked := by
  rw [Duration.parse, hspells.parseTrimmed, checked, checked]
  by_cases hle : (u.times n).seconds ≤ maxWord
  · rw [if_pos hle, if_pos hle]
  · rw [if_neg hle, if_neg hle]

theorem invalid_or_spells (text : String) :
    (∃ reason, parse text = .error (.invalidConfig reason)) ∨
      ∃ n u, Spells (Text.trim text.toList) n u := by
  apply (error_or_spells _).imp_left
  rintro ⟨fault, hfault⟩
  exact ⟨fault.message, by rw [Duration.parse, hfault]⟩

/-- Exactly the texts with a number and a unit are no invalid settings, with white space allowed at the
ends.  What is read is exact, and the program is stopped exactly where the seconds do not fit their
word. -/
theorem exact_unless_stopped (text : String) :
    (∀ d, parse text = .ok d ↔ ∃ n u, Spells (Text.trim text.toList) n u ∧
      (u.times n).seconds ≤ maxWord ∧ d = u.times n) ∧
    (parse text = .panic ↔ ∃ n u, Spells (Text.trim text.toList) n u ∧
      maxWord < (u.times n).seconds) ∧
    ((∃ reason, parse text = .error (.invalidConfig reason)) ↔
      ¬ ∃ n u, Spells (Text.trim text.toList) n u) := by
  refine ⟨fun d ↦ ⟨fun hread ↦ ?_, ?_⟩, ⟨fun hstopped ↦ ?_, ?_⟩, ⟨?_, ?_⟩⟩
  · obtain ⟨reason, hinvalid⟩ | ⟨n, u, hspells⟩ := invalid_or_spells text
    · exact nomatch hinvalid.symm.trans hread
    · exact ⟨n, u, hspells, checked_eq_ok.1 (hspells.parse.symm.trans hread)⟩
  · rintro ⟨n, u, hspells, hexact⟩
    exact hspells.parse.trans (checked_eq_ok.2 hexact)
  · obtain ⟨reason, hinvalid⟩ | ⟨n, u, hspells⟩ := invalid_or_spells text
    · exact nomatch hinvalid.symm.trans hstopped
    · exact ⟨n, u, hspells, checked_eq_panic.1 (hspells.parse.symm.trans hstopped)⟩
  · rintro ⟨n, u, hspells, hmany⟩
    exact hspells.parse.trans (checked_eq_panic.2 hmany)
  · rintro ⟨reason, hinvalid⟩ ⟨n, u, hspells⟩
    exact checked_ne_error _ _ (hspells.parse.symm.trans hinvalid)
  · exact (invalid_or_spells text).resolve_right

/-- More minutes than a 64-bit word has seconds for are no invalid setting, but stop the program. -/
theorem minutes_stopped :
    Spells (Text.trim "307445734561825861m".toList) 307445734561825861 .minutes ∧
      maxWord < (Scale.minutes.times 307445734561825861).seconds ∧
      parse "307445734561825861m" = .panic ∧
      ¬ ∃ reason, parse "307445734561825861m" = .error (.invalidConfig reason) := by
  obtain ⟨hnumber, hfits⟩ := Numeral.readUnsigned_eq_some.1
    (rfl : Numeral.readUnsigned maxWord "307445734561825861".toList = some 307445734561825861)
  have hspells : Spells (Text.trim "307445734561825861m".toList) 307445734561825861 .minutes :=
    ⟨hfits, "307445734561825861".toList, rfl, hnumber⟩
  have hstopped : parse "307445734561825861m" = .panic := rfl
  exact ⟨hspells, by decide, hstopped, by rw [hstopped]; exact nofun⟩

end Turnstile.Duration
