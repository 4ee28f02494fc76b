/-!
# The shortest decimal of a binary number

A finite binary number is `m * 2 ^ q`.  The decimals that read back as it form an interval around
it; its ends belong to it when `m` is even, because reading rounds a tie to the even neighbour.  The
shortest of these decimals is the multiple of the largest power of ten that has one there, and of
two multiples the nearer, the upper one in a tie.

All of it is exact arithmetic on natural numbers.
-/

namespace Turnstile.Decimal

/-- The decimal number `units * 10 ^ exponent`. -/
structure Scaled where
  units : Nat
  exponent : Int
deriving DecidableEq, Repr

/-- The positive numbers `low ≤ value ≤ high`, each over `scale`, and whether the ends count. -/
structure Interval where
  low : Nat
  value : Nat
  high : Nat
  scale : Nat
  closed : Bool

namespace Interval

/-- The numbers that round to `m * 2 ^ q`.  `wide` says whether the binary neighbour below is as
far away as the one above; it is half as far when `m` is the least of its binade. -/
def around (m : Nat) (q : Int) (wide : Bool) : Interval :=
  let unit := 1 <<< (q - 2).toNat
  { low := (4 * m - if wide then 2 else 1) * unit
    value := 4 * m * unit
    high := (4 * m + 2) * unit
    scale := 1 <<< (2 - q).toNat
    closed := m % 2 == 0 }

/-- Whether `n / d` belongs to the interval. -/
def contains (i : Interval) (n d : Nat) : Bool :=
  let low := i.low * d
  let high := i.high * d
  let n := n * i.scale
  if i.closed then low ≤ n && n ≤ high else low < n && n < high

/-- The multiple of `10 ^ exponent` nearest to the value among those in the interval. -/
def multiple? (i : Interval) (exponent : Int) : Option Nat :=
  let up := Nat.pow 10 exponent.toNat
  let down := Nat.pow 10 (-exponent).toNat
  let below := i.value * down / (i.scale * up)
  let rest := i.value * down % (i.scale * up)
  let lower := i.contains (below * up) down
  let upper := i.contains ((below + 1) * up) down
  if upper && (!lower || i.scale * up ≤ 2 * rest) then some (below + 1)
  else if lower then some below
  else none

/-- Searches from the power `exponent` downwards, `steps` powers at most. -/
def search (i : Interval) (exponent : Int) : Nat → Scaled
  | 0 => ⟨0, 0⟩
  | steps + 1 =>
    match i.multiple? exponent with
    | some units => ⟨units, exponent⟩
    | none => i.search (exponent - 1) steps

end Interval

/-- The shortest decimal that reads back as `m * 2 ^ q`, for a positive `m`. -/
def shortest (m : Nat) (q : Int) (wide : Bool) : Scaled :=
  let i := Interval.around m q wide
  let top := (Nat.toDigits 10 (i.value / i.scale)).length
  i.search top (top + 400)

/-- What a double-precision bit pattern stands for. -/
inductive Double where
  | notANumber
  | infinite (negative : Bool)
  | zero (negative : Bool)
  /-- The number `m * 2 ^ q` up to its sign. -/
  | finite (negative : Bool) (m : Nat) (q : Int) (wide : Bool)

/-- Sign, exponent and fraction of a double-precision number. -/
def Double.ofBits (bits : UInt64) : Double :=
  let negative := bits >>> 63 == 1
  let exponent := ((bits >>> 52) &&& 0x7FF).toNat
  let fraction := (bits &&& 0xFFFFFFFFFFFFF).toNat
  if exponent == 0x7FF then
    if fraction == 0 then .infinite negative else .notANumber
  else if exponent == 0 then
    if fraction == 0 then .zero negative else .finite negative fraction (-1074) true
  else
    .finite negative ((1 <<< 52) + fraction) (exponent - 1075) (fraction != 0 || exponent ≤ 1)

/-- The digits of `units * 10 ^ exponent` without an exponent and without a needless point. -/
def Scaled.positional (d : Scaled) : List Char :=
  let digits := Nat.toDigits 10 d.units
  if 0 ≤ d.exponent then digits ++ List.replicate d.exponent.toNat '0'
  else
    let places := (-d.exponent).toNat
    if digits.length ≤ places then
      '0' :: '.' :: List.replicate (places - digits.length) '0' ++ digits
    else
      digits.take (digits.length - places) ++ '.' :: digits.drop (digits.length - places)

/-- The text of a double: the fewest digits that read back, never an exponent, and no point in a
whole number. -/
def write (x : Float) : String :=
  let signed (negative : Bool) (text : List Char) : String :=
    String.ofList (if negative then '-' :: text else text)
  match Double.ofBits x.toBits with
  | .notANumber => "NaN"
  | .infinite negative => signed negative ['i', 'n', 'f']
  | .zero negative => signed negative ['0']
  | .finite negative m q wide => signed negative (shortest m q wide).positional

end Turnstile.Decimal
