import Mathlib.Data.List.Basic
import Std.Data.String.ToNat
import Turnstile.Proofs.Text.Parts
import Turnstile.Text.Blank
import Turnstile.Text.Numeral

/-!
# Numerals that are written and read

A written numeral has digits and perhaps a minus sign, and determines its integer.  A text that starts
with something else is no numeral, whatever white space there is around it.

A numeral is read, within the range of 64-bit integers, as what its digits denote: a plus sign and
leading zeros make no difference.
-/

namespace Turnstile

/-- White space is trimmed after a character that is none. -/
theorem Text.trimEnd_cons {c : Char} (hc : isBlank c = false) (rest : List Char) :
    trimEnd (c :: rest) = c :: trimEnd rest := by
  unfold trimEnd
  rw [List.reverse_cons, List.dropWhile_append]
  split
  case isTrue hempty =>
    rw [List.isEmpty_iff.1 hempty, List.dropWhile_cons_of_neg (by simp [hc])]
    rfl
  case isFalse => simp

theorem Text.trim_cons {c : Char} (hc : isBlank c = false) (rest : List Char) :
    trim (c :: rest) = c :: trimEnd rest := by
  rw [trim, trimStart, List.dropWhile_cons_of_neg (by simp [hc]), trimEnd_cons hc]

namespace Numeral

variable {n m : Int} {c : Char}

/-- A word that is read as fitting an integer has its value. -/
theorem toInt_of_fit? {w : Int64} (hfit : fit? n = some w) : w.toInt = n := by
  unfold fit? at hfit
  split at hfit
  case isTrue hrange =>
    rw [← Option.some.inj hfit]
    exact Int64.toInt_ofIntLE
  case isFalse => simp at hfit

/-- A 64-bit word can hold the integer. -/
def Fits (n : Int) : Prop :=
  Int64.minValue.toInt ≤ n ∧ n ≤ Int64.maxValue.toInt

instance (n : Int) : Decidable (Fits n) :=
  inferInstanceAs (Decidable (_ ∧ _))

theorem isSome_fit? : (fit? n).isSome ↔ Fits n := by
  unfold fit? Fits
  split
  case isTrue hrange => exact ⟨fun _ ↦ hrange, fun _ ↦ rfl⟩
  case isFalse hrange => exact ⟨nofun, fun h ↦ absurd h hrange⟩

theorem fits_toInt (w : Int64) : Fits w.toInt :=
  ⟨Int64.minValue_le_toInt w, Int64.toInt_le w⟩

/-- All words but the least have an opposite. -/
theorem fits_neg_toInt {w : Int64} : Fits (-w.toInt) ↔ w ≠ Int64.minValue := by
  have hlower := Int64.minValue_le_toInt w
  have hupper := Int64.toInt_le w
  rw [ne_eq, ← Int64.toInt_inj]
  unfold Fits
  simp only [Int64.toInt_minValue, Int64.toInt_maxValue] at *
  omega

theorem isDigit_of_mem_repr {k : Nat} (hc : c ∈ k.repr.toList) : c.isDigit := by
  rw [Nat.toList_repr] at hc
  exact Nat.isDigit_of_mem_toDigits (by decide) (by decide) hc

theorem isDigit_or_eq_of_mem_write (hc : c ∈ (write n).toList) : c.isDigit ∨ c = '-' := by
  cases n with
  | ofNat k => exact .inl (isDigit_of_mem_repr hc)
  | negSucc k =>
    have hcases : c = '-' ∨ c ∈ (k + 1).repr.toList := by
      simpa [write] using hc
    exact hcases.elim .inr fun hdigit ↦ .inl (isDigit_of_mem_repr hdigit)

theorem write_ne_nil (n : Int) : (write n).toList ≠ [] := by
  cases n <;> simp [write]

/-- A numeral without a sign differs from one with a sign. -/
theorem repr_ne_neg (k l : Nat) : k.repr ≠ "-" ++ l.repr := by
  intro heq
  have hmem : '-' ∈ k.repr.toList := by simp [heq]
  exact absurd (isDigit_of_mem_repr hmem) (by decide)

theorem write_injective (heq : write n = write m) : n = m := by
  cases n with
  | ofNat k =>
    cases m with
    | ofNat l => exact congrArg Int.ofNat (Nat.repr_injective heq)
    | negSucc l => exact absurd heq (repr_ne_neg k (l + 1))
  | negSucc k =>
    cases m with
    | ofNat l => exact absurd heq.symm (repr_ne_neg l (k + 1))
    | negSucc l =>
      have hrepr : (k + 1).repr = (l + 1).repr := by
        have hlist := congrArg String.toList heq
        simp only [write, String.toList_append] at hlist
        exact String.toList_inj.1 (List.append_cancel_left hlist)
      rw [Nat.succ.inj (Nat.repr_injective hrepr)]

theorem writeInt64_injective {v w : Int64} (heq : writeInt64 v = writeInt64 w) : v = w :=
  Int64.toInt_inj.1 (write_injective heq)

theorem readInt64_trim_cons (hblank : Text.isBlank c = false) (hminus : c ≠ '-') (hplus : c ≠ '+')
    (hdigit : digit? c = none) (rest : List Char) : readInt64 (Text.trim (c :: rest)) = none := by
  rw [Text.trim_cons hblank]
  simp [readInt64, readDigits, readFrom, hminus, hplus, hdigit]

/-! ## Reading -/

theorem digit?_eq (c : Char) : digit? c = if c.isDigit then some (c.toNat - '0'.toNat) else none := by
  have hiff : ('0' ≤ c ∧ c ≤ '9') ↔ c.isDigit := by simp [Char.isDigit, Char.le_def]
  simp only [digit?, hiff]

theorem le_ofDigitChars (digits : List Char) (init : Nat) :
    init ≤ Nat.ofDigitChars 10 digits init := by
  rw [Nat.ofDigitChars_eq_ofDigitChars_zero]
  have hpow : 0 < 10 ^ digits.length := Nat.pow_pos (by decide)
  exact Nat.le_trans (Nat.le_mul_of_pos_left init hpow) (Nat.le_add_right _ _)

/-- Digits are read on as far as the bound allows. -/
theorem readFrom_eq_some {bound value k : Nat} {digits : List Char} (hvalue : value ≤ bound) :
    readFrom bound value digits = some k ↔
      (∀ c ∈ digits, c.isDigit) ∧ Nat.ofDigitChars 10 digits value = k ∧ k ≤ bound := by
  induction digits generalizing value with
  | nil =>
    simp only [readFrom, Option.some.injEq, Nat.ofDigitChars_nil]
    constructor
    · rintro rfl
      exact ⟨nofun, rfl, hvalue⟩
    · exact fun h ↦ h.2.1
  | cons c rest ih =>
    simp only [readFrom, digit?_eq, Nat.ofDigitChars_cons, List.forall_mem_cons]
    by_cases hc : c.isDigit
    · simp only [hc, if_true, true_and]
      split
      case isTrue hle => exact ih hle
      case isFalse hgt =>
        have hle := le_ofDigitChars rest (10 * value + (c.toNat - '0'.toNat))
        constructor
        · exact nofun
        · rintro ⟨_, rfl, hbound⟩
          omega
    · simp [hc]

/-- One or more digits, and their value. -/
structure Digits (digits : List Char) (k : Nat) : Prop where
  ne_nil : digits ≠ []
  digit : ∀ c ∈ digits, c.isDigit
  value : Nat.ofDigitChars 10 digits 0 = k

theorem readDigits_eq_some {bound k : Nat} {digits : List Char} :
    readDigits bound digits = some k ↔ Digits digits k ∧ k ≤ bound := by
  cases digits with
  | nil => exact ⟨nofun, fun h ↦ absurd rfl h.1.ne_nil⟩
  | cons c rest =>
    have hread : readDigits bound (c :: rest) = readFrom bound 0 (c :: rest) := rfl
    rw [hread, readFrom_eq_some (Nat.zero_le bound)]
    constructor
    · exact fun ⟨hdigits, hvalue, hbound⟩ ↦ ⟨⟨List.cons_ne_nil c rest, hdigits, hvalue⟩, hbound⟩
    · exact fun ⟨hdigits, hbound⟩ ↦ ⟨hdigits.digit, hdigits.value, hbound⟩

/-- Digits after an optional plus sign, and their value. -/
inductive Unsigned : List Char → Nat → Prop
  | bare {digits : List Char} {k : Nat} (hdigits : Digits digits k) : Unsigned digits k
  | plus {digits : List Char} {k : Nat} (hdigits : Digits digits k) : Unsigned ('+' :: digits) k

theorem readUnsigned_eq_some {bound k : Nat} {s : List Char} :
    readUnsigned bound s = some k ↔ Unsigned s k ∧ k ≤ bound := by
  constructor
  · intro hread
    unfold readUnsigned at hread
    split at hread
    all_goals obtain ⟨hdigits, hbound⟩ := readDigits_eq_some.1 hread
    case h_1 => exact ⟨.plus hdigits, hbound⟩
    case h_2 => exact ⟨.bare hdigits, hbound⟩
  · rintro ⟨hunsigned, hbound⟩
    cases hunsigned with
    | plus hdigits => exact readDigits_eq_some.2 ⟨hdigits, hbound⟩
    | bare hdigits =>
      unfold readUnsigned
      split
      case h_1 => exact absurd (hdigits.digit '+' List.mem_cons_self) (by decide)
      case h_2 => exact readDigits_eq_some.2 ⟨hdigits, hbound⟩

/-- A number ends in a digit. -/
theorem Unsigned.exists_concat {s : List Char} {k : Nat} (hunsigned : Unsigned s k) :
    ∃ init c, s = init ++ [c] ∧ c.isDigit := by
  have hdigits {digits : List Char} (hdigits : Digits digits k) :
      ∃ init c, digits = init ++ [c] ∧ c.isDigit := by
    have hlast := List.dropLast_concat_getLast hdigits.ne_nil
    exact ⟨_, _, hlast.symm, hdigits.digit _ (List.getLast_mem hdigits.ne_nil)⟩
  cases hunsigned with
  | bare h => exact hdigits h
  | plus h =>
    obtain ⟨init, c, rfl, hc⟩ := hdigits h
    exact ⟨'+' :: init, c, rfl, hc⟩

/-- An optional sign with one or more digits, and the integer that they denote. -/
inductive Denotes : List Char → Int → Prop
  | unsigned {digits : List Char} {k : Nat} (hdigits : Digits digits k) : Denotes digits k
  | plus {digits : List Char} {k : Nat} (hdigits : Digits digits k) : Denotes ('+' :: digits) k
  | minus {digits : List Char} {k : Nat} (hdigits : Digits digits k) : Denotes ('-' :: digits) (-k)

/-- What a numeral starts with. -/
theorem Denotes.exists_cons {s : List Char} (hdenotes : Denotes s n) :
    ∃ c rest, s = c :: rest ∧ (c.isDigit ∨ c = '+' ∨ c = '-') := by
  cases hdenotes with
  | unsigned hdigits =>
    obtain ⟨c, rest, rfl⟩ := List.exists_cons_of_ne_nil hdigits.ne_nil
    exact ⟨c, rest, rfl, .inl (hdigits.digit c List.mem_cons_self)⟩
  | plus hdigits => exact ⟨_, _, rfl, .inr (.inl rfl)⟩
  | minus hdigits => exact ⟨_, _, rfl, .inr (.inr rfl)⟩

/-- What is true of digits and of both signs is true of the characters of a numeral. -/
theorem Denotes.forall_mem {s : List Char} (hdenotes : Denotes s n) {P : Char → Prop}
    (hdigit : ∀ c, c.isDigit → P c) (hplus : P '+') (hminus : P '-') : ∀ c ∈ s, P c := by
  cases hdenotes with
  | unsigned hdigits => exact fun c hc ↦ hdigit c (hdigits.digit c hc)
  | plus hdigits =>
    exact List.forall_mem_cons.2 ⟨hplus, fun c hc ↦ hdigit c (hdigits.digit c hc)⟩
  | minus hdigits =>
    exact List.forall_mem_cons.2 ⟨hminus, fun c hc ↦ hdigit c (hdigits.digit c hc)⟩

theorem isBlank_of_isDigit {c : Char} (hc : c.isDigit) : Text.isBlank c = false := by
  have hrange := Char.isDigit_iff_toNat.1 hc
  simp only [Char.reduceToNat] at hrange
  simp only [Text.isBlank, Bool.or_eq_false_iff, Bool.and_eq_false_iff, decide_eq_false_iff_not,
    beq_eq_false_iff_ne]
  omega

theorem Denotes.isWord {s : List Char} (hdenotes : Denotes s n) : Text.IsWord s where
  ne_nil := by
    obtain ⟨c, rest, rfl, _⟩ := hdenotes.exists_cons
    exact List.cons_ne_nil c rest
  unbroken := hdenotes.forall_mem (fun _ hc ↦ isBlank_of_isDigit hc) rfl rfl

theorem fit?_eq_some {w : Int64} : fit? n = some w ↔ w.toInt = n := by
  constructor
  · exact toInt_of_fit?
  · rintro rfl
    have hrange : Int64.minValue.toInt ≤ w.toInt ∧ w.toInt ≤ Int64.maxValue.toInt :=
      ⟨w.minValue_le_toInt, w.toInt_le⟩
    rw [fit?, dif_pos hrange, Int64.ofIntLE_toInt]

theorem Digits.readInt64 {digits : List Char} {k : Nat} (hdigits : Digits digits k) :
    readInt64 digits = (readDigits (Nat.pow 2 63) digits).bind fun n ↦ fit? n := by
  cases digits with
  | nil => exact absurd rfl hdigits.ne_nil
  | cons c rest =>
    have hc : c.isDigit := hdigits.digit c List.mem_cons_self
    have hminus : c ≠ '-' := by rintro rfl; simp at hc
    have hplus : c ≠ '+' := by rintro rfl; simp at hc
    simp [Numeral.readInt64, hminus, hplus]

/-- The numerals that are read are those that denote the integer. -/
theorem readInt64_eq_some {s : List Char} {v : Int64} :
    readInt64 s = some v ↔ Denotes s v.toInt := by
  have hlower := Int64.le_toInt v
  have hupper := Int64.toInt_lt v
  constructor
  · intro hread
    unfold readInt64 at hread
    split at hread
    all_goals
      obtain ⟨k, hdigits, hfit⟩ := Option.bind_eq_some_iff.1 hread
      rw [fit?_eq_some.1 hfit]
    case h_1 => exact .minus (readDigits_eq_some.1 hdigits).1
    case h_2 => exact .plus (readDigits_eq_some.1 hdigits).1
    case h_3 => exact .unsigned (readDigits_eq_some.1 hdigits).1
  · intro hdenotes
    generalize hz : v.toInt = z at hdenotes
    have hbound {digits : List Char} {k : Nat} (hdigits : Digits digits k) (hk : k ≤ 2 ^ 63) :
        readDigits (Nat.pow 2 63) digits = some k :=
      readDigits_eq_some.2 ⟨hdigits, hk⟩
    cases hdenotes with
    | unsigned hdigits =>
      rw [hdigits.readInt64, hbound hdigits (by omega)]
      exact fit?_eq_some.2 hz
    | plus hdigits =>
      rw [readInt64, hbound hdigits (by omega)]
      exact fit?_eq_some.2 hz
    | minus hdigits =>
      rw [readInt64, hbound hdigits (by omega)]
      exact fit?_eq_some.2 hz

theorem Digits.repr (k : Nat) : Digits k.repr.toList k where
  ne_nil := by simp
  digit _ hc := isDigit_of_mem_repr hc
  value := by rw [Nat.toList_repr, Nat.ofDigitChars_ten_toDigits]

/-- A written numeral denotes its integer. -/
theorem denotes_write (n : Int) : Denotes (write n).toList n := by
  cases n with
  | ofNat k => exact .unsigned (.repr k)
  | negSucc k =>
    have hsplit : (write (.negSucc k)).toList = '-' :: (k + 1).repr.toList := by simp [write]
    rw [hsplit]
    exact .minus (.repr (k + 1))

end Numeral

end Turnstile
