import Turnstile.Config.Setting
import Turnstile.Decimal.Reading
import Turnstile.Toml.Lexical

/-!
# Scalars of a TOML document

Booleans, integers, floats, dates and times.  A date or time becomes its normal text.
-/

namespace Turnstile.Toml

open Config (Setting)

/-! ## Numbers -/

/-- Digits without the underscores between them; nothing if an underscore stands elsewhere or there
is no digit. -/
def plainDigits (isDigit : Char → Bool) : List Char → Option (List Char)
  | [] => none
  | [c] => if isDigit c then some [c] else none
  | c :: '_' :: rest =>
    if isDigit c then (plainDigits isDigit rest).map (c :: ·) else none
  | c :: rest =>
    if isDigit c then (plainDigits isDigit rest).map (c :: ·) else none

/-- The value of digits in a base, if it is a 64-bit integer. -/
def digitsInt (base : Nat) (negative : Bool) (digits : List Char) : Option Int :=
  let value := digits.foldl (fun n c ↦ base * n + (hexDigit? c).getD 0) 0
  let n : Int := if negative then -(value : Int) else value
  (Numeral.fit? n).map Int64.toInt

/-- Digits in a base other than ten. -/
def basedInt (base : Nat) (digits : List Char) : Option Int :=
  (plainDigits (fun c ↦ (hexDigit? c).any (· < base)) digits).bind (digitsInt base false)

/-- Decimal digits without needless leading zeros. -/
def wholeDigits (s : List Char) : Option (List Char) :=
  match plainDigits Char.isDigit s with
  | some ('0' :: _ :: _) => none
  | digits => digits

/-- A sign and what follows it. -/
def splitSign : List Char → Bool × List Char
  | '-' :: rest => (true, rest)
  | '+' :: rest => (false, rest)
  | s => (false, s)

/-- An integer. -/
def readInt (word : List Char) : Option Int :=
  match word with
  | '0' :: 'x' :: digits => basedInt 16 digits
  | '0' :: 'o' :: digits => basedInt 8 digits
  | '0' :: 'b' :: digits => basedInt 2 digits
  | word =>
    let (negative, digits) := splitSign word
    (wholeDigits digits).bind (digitsInt 10 negative)

/-- An exponent after its letter. -/
def readExponent (s : List Char) : Option (List Char) :=
  let (negative, digits) := splitSign s
  (plainDigits Char.isDigit digits).map fun digits ↦
    if negative then 'e' :: '-' :: digits else 'e' :: digits

/-- A float without its sign: it has a fraction, an exponent or both. -/
def readMagnitude (word : List Char) : Option Float :=
  match word with
  | ['i', 'n', 'f'] => some (1.0 / 0.0)
  | ['n', 'a', 'n'] => some (0.0 / 0.0)
  | word => do
    let isPart (c : Char) : Bool := c ≠ '.' && c ≠ 'e' && c ≠ 'E'
    let whole ← wholeDigits (word.takeWhile isPart)
    let rest := word.dropWhile isPart
    let (fraction, rest) ← match rest with
      | '.' :: rest => do
        let digits ← plainDigits Char.isDigit (rest.takeWhile isPart)
        some ('.' :: digits, rest.dropWhile isPart)
      | rest => some ([], rest)
    let exponent ← match rest with
      | [] => some []
      | '.' :: _ => none
      | _ :: rest => readExponent rest
    let value ← Decimal.readMagnitude (whole ++ fraction ++ exponent)
    if (fraction.isEmpty && exponent.isEmpty) || value.isInf then none else some value

/-- A float. -/
def readFloat (word : List Char) : Option Float :=
  let (negative, rest) := splitSign word
  (readMagnitude rest).map fun x ↦ if negative then -x else x

/-! ## Dates and times -/

/-- Exactly `count` decimal digits. -/
def readDigits (value : Nat) : Nat → Parser Nat
  | 0, s => some (value, s)
  | count + 1, c :: rest =>
    if c.isDigit then readDigits (10 * value + (c.toNat - '0'.toNat)) count rest else none
  | _ + 1, [] => none

/-- A number with leading zeros up to a width. -/
def padded (width n : Nat) : List Char :=
  let digits := Nat.toDigits 10 n
  List.replicate (width - digits.length) '0' ++ digits

/-- The number of days in a month. -/
def daysIn (year month : Nat) : Nat :=
  if month = 2 then
    if year % 4 = 0 && (year % 100 ≠ 0 || year % 400 = 0) then 29 else 28
  else if [4, 6, 9, 11].contains month then 30
  else 31

/-- A date, as its text. -/
def readDate (s : List Char) : Option (List Char × List Char) := do
  let (year, s) ← readDigits 0 4 s
  let '-' :: s := s | none
  let (month, s) ← readDigits 0 2 s
  let '-' :: s := s | none
  let (day, s) ← readDigits 0 2 s
  if month < 1 || 12 < month || day < 1 || daysIn year month < day then none
  else some (padded 4 year ++ '-' :: padded 2 month ++ '-' :: padded 2 day, s)

/-- The fraction of a second, to nine digits and without zeros at its end, except that one digit
stays. -/
def readFraction (s : List Char) : Option (List Char × List Char) :=
  match s with
  | '.' :: rest =>
    let digits := rest.takeWhile Char.isDigit
    if digits.isEmpty then none
    else
      let kept := ((digits.take 9).reverse.dropWhile (· = '0')).reverse
      some ('.' :: if kept.isEmpty then ['0'] else kept, rest.dropWhile Char.isDigit)
  | s => some ([], s)

/-- A time of day, as its text; the seconds may be missing. -/
def readTime (s : List Char) : Option (List Char × List Char) := do
  let (hour, s) ← readDigits 0 2 s
  let ':' :: s := s | none
  let (minute, s) ← readDigits 0 2 s
  if 23 < hour || 59 < minute then none
  else
    let front := padded 2 hour ++ ':' :: padded 2 minute
    match s with
    | ':' :: s => do
      let (second, s) ← readDigits 0 2 s
      if 60 < second then none
      else
        let (fraction, s) ← readFraction s
        some (front ++ ':' :: padded 2 second ++ fraction, s)
    | s => some (front, s)

/-- An offset from universal time, as its text, which may be missing; no offset is positive. -/
def readOffset (s : List Char) : Option (List Char × List Char) :=
  match s with
  | 'Z' :: rest => some (['Z'], rest)
  | 'z' :: rest => some (['Z'], rest)
  | c :: rest =>
    if c = '+' || c = '-' then do
      let (hour, rest) ← readDigits 0 2 rest
      let ':' :: rest := rest | none
      let (minute, rest) ← readDigits 0 2 rest
      if 23 < hour || 59 < minute then none
      else
        let sign := if hour = 0 && minute = 0 then '+' else c
        some (sign :: padded 2 hour ++ ':' :: padded 2 minute, rest)
    else some ([], c :: rest)
  | [] => some ([], [])

/-- A date with or without a time, or a time, as its text. -/
def readDateTime (s : List Char) : Option (String × List Char) :=
  match readDate s with
  | some (date, rest) =>
    let timed (rest : List Char) : Option (List Char × List Char) := do
      let (time, rest) ← readTime rest
      let (offset, rest) ← readOffset rest
      some (date ++ 'T' :: time ++ offset, rest)
    match rest with
    | 'T' :: rest => (timed rest).map fun (text, rest) ↦ (String.ofList text, rest)
    | 't' :: rest => (timed rest).map fun (text, rest) ↦ (String.ofList text, rest)
    | ' ' :: c :: rest =>
      if c.isDigit then
        (timed (c :: rest)).map fun (text, rest) ↦ (String.ofList text, rest)
      else some (String.ofList date, ' ' :: c :: rest)
    | rest => some (String.ofList date, rest)
  | none => (readTime s).map fun (text, rest) ↦ (String.ofList text, rest)

/-! ## All scalars -/

/-- A character of a scalar without quotes. -/
def isWordChar (c : Char) : Bool :=
  c.isAlphanum || c = '_' || c = '-' || c = '+' || c = '.' || c = ':'

/-- A scalar without quotes. -/
def readWord (s : List Char) : Option (Setting × List Char) :=
  let word := s.takeWhile isWordChar
  let rest := s.dropWhile isWordChar
  match word with
  | ['t', 'r', 'u', 'e'] => some (.flag true, rest)
  | ['f', 'a', 'l', 's', 'e'] => some (.flag false, rest)
  | word =>
    match readInt word with
    | some n => some (.whole n, rest)
    | none =>
      match readFloat word with
      | some x => some (.real x, rest)
      | none =>
        match readDateTime s with
        | some (text, rest) =>
          if rest.head?.any isWordChar then none else some (.text text, rest)
        | none => none

end Turnstile.Toml
