import Turnstile.Text.Blank

/-!
# Tokens of data literals

A literal is made of brackets, quoted strings and atoms.  White space and commas only separate: an
atom runs up to a bracket, a quote, a comma or white space.  In a string a backslash makes the next
character literal, save that `\n` and `\t` are a line feed and a tab.

The lexer takes one character at a time.  Between two characters it is outside any token, inside an
atom, or inside a string; the text is refused only when it ends inside a string.
-/

namespace Turnstile.Edn

/-- The three pairs of brackets. -/
inductive Bracket where
  | square
  | round
  | curly
deriving DecidableEq, Repr

namespace Bracket

/-- The character that opens the pair. -/
def opening : Bracket → Char
  | square => '['
  | round => '('
  | curly => '\x7b'

/-- The character that closes the pair. -/
def closing : Bracket → Char
  | square => ']'
  | round => ')'
  | curly => '\x7d'

end Bracket

/-- The smallest meaningful parts of a literal. -/
inductive Token where
  | opening (b : Bracket)
  | closing (b : Bracket)
  | str (s : String)
  | atom (s : String)
deriving DecidableEq, Repr

/-- What a character means outside strings. -/
inductive CharClass where
  | separator
  | opening (b : Bracket)
  | closing (b : Bracket)
  | quote
  | plain
deriving DecidableEq, Repr

/-- The class of a character. -/
def classify (c : Char) : CharClass :=
  match c with
  | '[' => .opening .square
  | ']' => .closing .square
  | '(' => .opening .round
  | ')' => .closing .round
  | '\x7b' => .opening .curly
  | '\x7d' => .closing .curly
  | '"' => .quote
  | ',' => .separator
  | c => if Text.isBlank c then .separator else .plain

/-- Where the lexer stands; the characters of the token being read are kept in reverse. -/
inductive Lexing where
  | outside
  | inAtom (read : List Char)
  | inString (read : List Char)
  | afterBackslash (read : List Char)

namespace Lexing

/-- The character that a backslash and `c` stand for. -/
def unescape : Char → Char
  | 'n' => '\n'
  | 't' => '\t'
  | c => c

/-- A character met outside any token, the tokens before it being kept in reverse. -/
def enter (tokens : List Token) (c : Char) : List Token × Lexing :=
  match classify c with
  | .separator => (tokens, .outside)
  | .opening b => (.opening b :: tokens, .outside)
  | .closing b => (.closing b :: tokens, .outside)
  | .quote => (tokens, .inString [])
  | .plain => (tokens, .inAtom [c])

/-- One character on. -/
def step : List Token × Lexing → Char → List Token × Lexing
  | (tokens, .outside), c => enter tokens c
  | (tokens, .inAtom read), c =>
    match classify c with
    | .plain => (tokens, .inAtom (c :: read))
    | _ => enter (.atom (String.ofList read.reverse) :: tokens) c
  | (tokens, .inString read), c =>
    match c with
    | '"' => (.str (String.ofList read.reverse) :: tokens, .outside)
    | '\\' => (tokens, .afterBackslash read)
    | c => (tokens, .inString (c :: read))
  | (tokens, .afterBackslash read), c => (tokens, .inString (unescape c :: read))

/-- The tokens at the end of the text, or nothing inside a string. -/
def finish : List Token × Lexing → Option (List Token)
  | (tokens, .outside) => some tokens.reverse
  | (tokens, .inAtom read) => some (.atom (String.ofList read.reverse) :: tokens).reverse
  | (_, .inString _) => none
  | (_, .afterBackslash _) => none

end Lexing

/-- The tokens of a text, unless it ends inside a string. -/
def tokenize (text : List Char) : Option (List Token) :=
  Lexing.finish (text.foldl Lexing.step ([], .outside))

end Turnstile.Edn
