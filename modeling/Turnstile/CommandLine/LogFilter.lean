import Turnstile.Text.Blank
import Turnstile.Text.Numeral

/-!
# Filters of the log

What is logged is chosen by directives with commas between them.  A directive is a level, or a
target, or a target with a span in square brackets, and may end in an equals sign and a level.  A
span may have fields in braces.  A directive that is not well formed is passed over with a warning.
-/

namespace Turnstile.CommandLine.LogFilter

/-- Why a directive is passed over. -/
inductive Fault where
  | malformed
  | unknownLevel
deriving DecidableEq, Repr

/-- What a warning says about a fault. -/
def Fault.message : Fault → String
  | malformed => "invalid filter directive"
  | unknownLevel =>
    "error parsing level filter: expected one of \"off\", \"error\", \"warn\", \"info\", " ++
      "\"debug\", \"trace\", or a number 0-5"

/-- Whether a text names a level; nothing stands for one too. -/
def isLevel (text : String) : Bool :=
  match Numeral.readUnsigned (UInt64.size - 1) text.toList with
  | some n => n ≤ 5
  | none => ["", "off", "error", "warn", "info", "debug", "trace"].contains text.toLower

/-- What has been read of a directive. -/
inductive Reading where
  | start
  | target
  | span
  | fields (isEmpty : Bool)
  | afterFields
  | afterSpan
  /-- The level, which starts after so many characters. -/
  | level (start : Nat)

/-- Whether a directive may start with a character other than a bracket. -/
def startsTarget (c : Char) : Bool :=
  c.isAlphanum || c = '-' || c = ':' || c = '_' || 0x80 ≤ c.toNat

/-- Reads one more character, which stands after `index` others. -/
def Reading.step (index : Nat) (c : Char) : Reading → Except Fault Reading
  | start =>
    if c = '[' then .ok span else if startsTarget c then .ok target else .error .malformed
  | target => .ok (if c = '=' then level (index + 1) else if c = '[' then span else target)
  | span => .ok (if c = ']' then afterSpan else if c = '\x7b' then fields true else span)
  | fields isEmpty =>
    if c = '\x7d' then (if isEmpty then .error .malformed else .ok afterFields)
    else .ok (fields false)
  | afterFields => if c = ']' then .ok afterSpan else .error .malformed
  | afterSpan => if c = '=' then .ok (level (index + 1)) else .error .malformed
  | level first => .ok (level first)

/-- Reads the characters of a directive. -/
def Reading.run (r : Reading) (index : Nat) : List Char → Except Fault Reading
  | [] => .ok r
  | c :: rest =>
    match r.step index c with
    | .ok r => r.run (index + 1) rest
    | .error f => .error f

/-- Checks a directive.  White space around it is passed over at first, but places in it are counted
with that white space. -/
def check (directive : String) : Except Fault Unit :=
  match Reading.start.run 0 (Text.trim directive.toList) with
  | .error f => .error f
  | .ok .target => .ok ()
  | .ok .afterSpan => .ok ()
  | .ok (.level first) =>
    if isLevel (String.ofList (directive.toList.drop first)) then .ok () else .error .unknownLevel
  | .ok _ => .error .malformed

/-- The warnings about the directives of a filter, a line each. -/
def warnings (filter : String) : List String :=
  (filter.splitOn ",").filterMap fun directive ↦
    if directive.isEmpty then none
    else
      match check directive with
      | .ok () => none
      | .error f => some ("ignoring \x60" ++ directive ++ "\x60: " ++ f.message ++ "\n")

end Turnstile.CommandLine.LogFilter
