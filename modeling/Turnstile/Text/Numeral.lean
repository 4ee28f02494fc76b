/-!
# Numerals

Whole numbers in base ten.  Reading is bounded: a numeral whose value exceeds the bound is refused
as soon as the digits read so far show it, so a long run of digits costs no more than its length.
-/

namespace Turnstile.Numeral

/-- The value of a decimal digit. -/
def digit? (c : Char) : Option Nat :=
  if '0' ≤ c ∧ c ≤ '9' then some (c.toNat - '0'.toNat) else none

/-- Reads on from the value of the digits before. -/
def readFrom (bound : Nat) (value : Nat) : List Char → Option Nat
  | [] => some value
  | c :: rest =>
    match digit? c with
    | none => none
    | some d =>
      let value := 10 * value + d
      if value ≤ bound then readFrom bound value rest else none

/-- One or more digits whose value is at most `bound`. -/
def readDigits (bound : Nat) : List Char → Option Nat
  | [] => none
  | digits => readFrom bound 0 digits

/-- Digits after an optional plus sign, with a value at most `bound`. -/
def readUnsigned (bound : Nat) : List Char → Option Nat
  | '+' :: digits => readDigits bound digits
  | digits => readDigits bound digits

/-- The integer as a 64-bit word, if it lies in the range. -/
def fit? (n : Int) : Option Int64 :=
  if h : Int64.minValue.toInt ≤ n ∧ n ≤ Int64.maxValue.toInt then
    some (Int64.ofIntLE n h.1 h.2)
  else none

/-- An optional sign and digits, denoting a 64-bit integer. -/
def readInt64 : List Char → Option Int64
  | '-' :: digits => (readDigits (Nat.pow 2 63) digits).bind fun n ↦ fit? (-n)
  | '+' :: digits => (readDigits (Nat.pow 2 63) digits).bind fun n ↦ fit? n
  | digits => (readDigits (Nat.pow 2 63) digits).bind fun n ↦ fit? n

/-- The shortest numeral of an integer: no plus sign, no leading zero. -/
def write (n : Int) : String :=
  match n with
  | .ofNat m => m.repr
  | .negSucc m => "-" ++ (m + 1).repr

/-- The numeral of a 64-bit integer. -/
def writeInt64 (n : Int64) : String :=
  write n.toInt

end Turnstile.Numeral
