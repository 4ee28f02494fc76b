import Turnstile.Edn.Form
import Turnstile.Edn.Token
import Turnstile.Text.Numeral

/-!
# Reading a form

The reader takes the tokens of a text one by one and keeps the collections that are still open, the
innermost first, each with its items so far in reverse.  A closing bracket turns the innermost
collection into an item of the next one; the form that belongs to no open collection is the result,
and nothing may follow it.  At most thirty-two collections are open at once, so depth is counted
along one path and siblings do not add to it.
-/

namespace Turnstile.Edn

/-- How many collections may be open at once. -/
def maxDepth : Nat := 32

/-- Why a text is not exactly one form. -/
inductive ReadFault where
  | unterminatedString
  | unexpectedEnd
  | unexpectedClosing (b : Bracket)
  | oddMap
  | tooDeep
  | missingClosing (b : Bracket)
  | wrongClosing (expected found : Bracket)
  | emptyKeyword
  | badInteger (atom : String)
  | trailingInput
deriving DecidableEq, Repr

/-- A character between single quotes. -/
def ticked (c : Char) : String :=
  String.ofList ['\x27', c, '\x27']

/-- The text that describes the fault. -/
def ReadFault.message : ReadFault → String
  | unterminatedString => "unterminated string"
  | unexpectedEnd => "unexpected end of input"
  | unexpectedClosing b => "unexpected " ++ ticked b.closing
  | oddMap => "map literal needs an even number of forms"
  | tooDeep => "nesting too deep"
  | missingClosing b => "missing " ++ ticked b.closing
  | wrongClosing expected found =>
    "expected " ++ ticked expected.closing ++ ", found " ++ ticked found.closing
  | emptyKeyword => "empty keyword"
  | badInteger atom => "invalid integer " ++ atom
  | trailingInput => "trailing input after form"

/-! ## Atoms -/

/-- Whether an atom must be an integer: it starts with a digit, or with a sign and a digit. -/
def looksNumeric : List Char → Bool
  | c :: rest =>
    c.isDigit || ((c = '-' || c = '+') && match rest with
      | d :: _ => d.isDigit
      | [] => false)
  | [] => false

/-- The form of an atom. -/
def atomForm (atom : String) : Except ReadFault Form :=
  match atom.toList with
  | ['n', 'i', 'l'] => .ok .nil
  | ['t', 'r', 'u', 'e'] => .ok (.bool true)
  | ['f', 'a', 'l', 's', 'e'] => .ok (.bool false)
  | [':'] => .error .emptyKeyword
  | ':' :: name => .ok (.keyword (String.ofList name))
  | chars =>
    if looksNumeric chars then
      match Numeral.readInt64 chars with
      | some n => .ok (.int n)
      | none => .error (.badInteger atom)
    else .ok (.symbol atom)

/-! ## Collections -/

/-- A collection that is still open, with its items so far in reverse. -/
structure OpenCollection where
  bracket : Bracket
  items : List Form

/-- Takes items in pairs after those in `pairs`, which are kept in reverse; nothing if an item is
left over. -/
def pairUpOnto (pairs : List (Form × Form)) : List Form → Option (List (Form × Form))
  | [] => some pairs.reverse
  | [_] => none
  | k :: v :: rest => pairUpOnto ((k, v) :: pairs) rest

/-- Items in pairs; nothing if one is left over. -/
def pairUp (items : List Form) : Option (List (Form × Form)) :=
  pairUpOnto [] items

/-- The form of a collection that has been closed. -/
def OpenCollection.form (c : OpenCollection) : Except ReadFault Form :=
  let items := c.items.reverse
  match c.bracket with
  | .square => .ok (.vector items)
  | .round => .ok (.list items)
  | .curly =>
    match pairUp items with
    | some pairs => .ok (.map pairs)
    | none => .error .oddMap

/-- How far the reader has come. -/
inductive Reading where
  | inside (opened : List OpenCollection)
  | complete (form : Form)

namespace Reading

/-- A form has been read: an item of the innermost open collection, or the result. -/
def push (f : Form) : List OpenCollection → Reading
  | [] => .complete f
  | c :: outer => .inside ({ c with items := f :: c.items } :: outer)

/-- One token on. -/
def step : Reading → Token → Except ReadFault Reading
  | .complete _, _ => .error .trailingInput
  | .inside opened, .opening b =>
    if maxDepth ≤ opened.length then .error .tooDeep else .ok (.inside (⟨b, []⟩ :: opened))
  | .inside [], .closing b => .error (.unexpectedClosing b)
  | .inside (c :: outer), .closing b =>
    if b = c.bracket then c.form.map (push · outer) else .error (.wrongClosing c.bracket b)
  | .inside opened, .str s => .ok (push (.str s) opened)
  | .inside opened, .atom a => (atomForm a).map (push · opened)

/-- The result at the end of the tokens. -/
def finish : Reading → Except ReadFault Form
  | .complete f => .ok f
  | .inside [] => .error .unexpectedEnd
  | .inside (c :: _) => .error (.missingClosing c.bracket)

/-- Reads on through all tokens. -/
def run (r : Reading) : List Token → Except ReadFault Form
  | [] => r.finish
  | token :: rest =>
    match r.step token with
    | .ok r => r.run rest
    | .error fault => .error fault

end Reading

/-- The one form that the characters write. -/
def readChars (text : List Char) : Except ReadFault Form :=
  match tokenize text with
  | some tokens => Reading.run (.inside []) tokens
  | none => .error .unterminatedString

/-- The one form that a text writes. -/
def read (text : String) : Except Error Form :=
  match readChars text.toList with
  | .ok form => .ok form
  | .error fault => .error (.malformedRequest fault.message)

end Turnstile.Edn
