import Turnstile.Error
import Turnstile.Text.Blank
import Turnstile.Text.Numeral

/-!
# Durations

A duration is a whole number of nanoseconds.  It is written as an unsigned number followed directly
by a unit: `ms`, `s`, `m` or `h`.  Seconds are counted in a 64-bit word.  Minutes and hours are turned
into seconds by a checked product, so more of them than the word holds stop the program.
-/

namespace Turnstile

/-- A length of time. -/
structure Duration where
  nanoseconds : Nat
deriving DecidableEq, Repr, Inhabited

namespace Duration

def zero : Duration := ⟨0⟩

def ofSeconds (n : Nat) : Duration := ⟨n * 1000000000⟩

def ofMillis (n : Nat) : Duration := ⟨n * 1000000⟩

/-- Whole seconds. -/
def seconds (d : Duration) : Nat := d.nanoseconds / 1000000000

/-- Nanoseconds beyond the whole seconds. -/
def subseconds (d : Duration) : Nat := d.nanoseconds % 1000000000

/-- Whole milliseconds. -/
def millis (d : Duration) : Nat := d.nanoseconds / 1000000

/-- The length in milliseconds as a floating-point number: seconds and the part below a second are
added as seconds first, then scaled. -/
def toMillisFloat (d : Duration) : Float :=
  (Float.ofNat d.seconds + Float.ofNat d.subseconds / 1000000000.0) * 1000.0

/-- Why a text is no duration. -/
inductive Fault where
  | empty
  | badNumber (text : String)
  | unknownUnit (unit : String)
deriving DecidableEq, Repr

/-- The text that describes the fault. -/
def Fault.message : Fault → String
  | empty => "empty duration"
  | badNumber text => "invalid duration: " ++ text
  | unknownUnit unit => "unknown duration unit: " ++ unit

/-- What comes of a text that is read as a duration. -/
inductive Outcome (ε : Type) where
  | ok (d : Duration)
  | error (e : ε)
  /-- The seconds exceed their word, which stops the program. -/
  | panic
deriving DecidableEq, Repr

/-- A text split before its unit: `ms` if it ends so, else its last character. -/
def splitUnit (s : List Char) : List Char × List Char :=
  match s.reverse with
  | 's' :: 'm' :: rest => (rest.reverse, ['m', 's'])
  | c :: rest => (rest.reverse, [c])
  | [] => ([], [])

/-- The largest 64-bit word. -/
def maxWord : Nat := UInt64.size - 1

/-- So many seconds, if their word holds them. -/
def ofCheckedSeconds {ε : Type} (n : Nat) : Outcome ε :=
  if n ≤ maxWord then .ok (ofSeconds n) else .panic

/-- A duration without white space around it. -/
def parseTrimmed (s : List Char) : Outcome Fault :=
  if s.isEmpty then .error .empty
  else
    let (number, unit) := splitUnit s
    match Numeral.readUnsigned maxWord number with
    | none => .error (.badNumber (String.ofList s))
    | some n =>
      match unit with
      | ['m', 's'] => .ok (ofMillis n)
      | ['s'] => .ok (ofSeconds n)
      | ['m'] => ofCheckedSeconds (n * 60)
      | ['h'] => ofCheckedSeconds (n * 3600)
      | unit => .error (.unknownUnit (String.ofList unit))

/-- Reads a duration such as `200ms` or `1h`, with white space allowed at the ends. -/
def parse (text : String) : Outcome Error :=
  match parseTrimmed (Text.trim text.toList) with
  | .ok d => .ok d
  | .error fault => .error (.invalidConfig fault.message)
  | .panic => .panic

end Duration

end Turnstile
