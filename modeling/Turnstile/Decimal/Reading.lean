import Turnstile.Text.Numeral

/-!
# Reading decimals

A decimal is an optional sign, digits with at most one point among or beside them, and an optional
exponent; `inf`, `infinity` and `nan` in any case are decimals too.  The result is the nearest
double, a tie going to the even one.
-/

namespace Turnstile.Decimal

/-- The double nearest to `units * 10 ^ exponent`.  Beyond the range of doubles no power of ten is
formed. -/
def toFloat (units : Nat) (exponent : Int) : Float :=
  let digits : Int := (Nat.toDigits 10 units).length
  if units == 0 || exponent + digits < -400 then 0.0
  else if 400 < exponent + digits then 1.0 / 0.0
  else Float.ofScientific units (exponent < 0) exponent.natAbs

/-- The value of a run of digits, after those that gave `value`. -/
def digitsValue (value : Nat) (digits : List Char) : Nat :=
  digits.foldl (fun value c ↦ 10 * value + (c.toNat - '0'.toNat)) value

/-- An exponent after its letter, held within what can matter. -/
def readExponent (s : List Char) : Option Int :=
  let (negative, digits) : Bool × List Char :=
    match s with
    | '-' :: rest => (true, rest)
    | '+' :: rest => (false, rest)
    | rest => (false, rest)
  if digits.isEmpty || !digits.all Char.isDigit then none
  else
    let size := digits.foldl (fun n c ↦ min 1000000000 (10 * n + (c.toNat - '0'.toNat))) 0
    some (if negative then -(size : Int) else size)

/-- A decimal without its sign. -/
def readMagnitude (s : List Char) : Option Float :=
  let word := String.ofList (s.map Char.toLower)
  if word == "inf" || word == "infinity" then some (1.0 / 0.0)
  else if word == "nan" then some (0.0 / 0.0)
  else
    let whole := s.takeWhile Char.isDigit
    let rest := s.dropWhile Char.isDigit
    let (fraction, rest) : List Char × List Char :=
      match rest with
      | '.' :: rest => (rest.takeWhile Char.isDigit, rest.dropWhile Char.isDigit)
      | rest => ([], rest)
    if whole.isEmpty && fraction.isEmpty then none
    else
      let units := digitsValue (digitsValue 0 whole) fraction
      let places : Int := fraction.length
      match rest with
      | [] => some (toFloat units (-places))
      | c :: rest =>
        if c == 'e' || c == 'E' then
          (readExponent rest).map fun exponent ↦ toFloat units (exponent - places)
        else none

/-- A decimal with an optional sign. -/
def read (s : List Char) : Option Float :=
  match s with
  | '-' :: rest => (readMagnitude rest).map fun x ↦ -x
  | '+' :: rest => readMagnitude rest
  | rest => readMagnitude rest

end Turnstile.Decimal
