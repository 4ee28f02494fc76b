/-!
# Words of a TOML document

Spaces, comments, line ends, quoted strings and keys.  Every reader takes the characters that remain
and gives what it has read with those that remain after it, or nothing if they do not start with
what it reads.
-/

namespace Turnstile.Toml

/-- A reader of characters. -/
abbrev Parser (α : Type) := List Char → Option (α × List Char)

/-- A control other than a tab, which may stand nowhere. -/
def isForbidden (c : Char) : Bool :=
  (c.toNat < 0x20 && c ≠ '\t') || c.toNat == 0x7F

/-- What follows spaces and tabs. -/
def skipSpace (s : List Char) : List Char :=
  s.dropWhile fun c ↦ c = ' ' || c = '\t'

/-- What follows a line end, if there is one. -/
def lineEnd? : List Char → Option (List Char)
  | '\n' :: rest => some rest
  | '\r' :: '\n' :: rest => some rest
  | _ => none

/-- What follows a comment, if there is one, up to the line end; nothing if the comment holds a
control. -/
def skipComment : List Char → Option (List Char)
  | '#' :: rest =>
    let (comment, rest) := (rest.takeWhile fun c ↦ c ≠ '\n' && c ≠ '\r',
      rest.dropWhile fun c ↦ c ≠ '\n' && c ≠ '\r')
    if comment.any isForbidden then none else some rest
  | s => some s

/-- What follows spaces, comments and line ends.  The fuel is the number of characters. -/
def skipLines : Nat → List Char → Option (List Char)
  | 0, s => some s
  | fuel + 1, s =>
    match skipComment (skipSpace s) with
    | none => none
    | some rest =>
      match lineEnd? rest with
      | some rest => skipLines fuel rest
      | none => some rest

/-! ## Strings -/

/-- The value of a hexadecimal digit. -/
def hexDigit? (c : Char) : Option Nat :=
  if '0' ≤ c ∧ c ≤ '9' then some (c.toNat - '0'.toNat)
  else if 'a' ≤ c ∧ c ≤ 'f' then some (c.toNat - 'a'.toNat + 10)
  else if 'A' ≤ c ∧ c ≤ 'F' then some (c.toNat - 'A'.toNat + 10)
  else none

/-- Exactly `count` hexadecimal digits, after those that gave `value`. -/
def readHex (value : Nat) : Nat → Parser Nat
  | 0, s => some (value, s)
  | count + 1, c :: rest =>
    match hexDigit? c with
    | some d => readHex (16 * value + d) count rest
    | none => none
  | _ + 1, [] => none

/-- A code point that is a character. -/
def charOf? (n : Nat) : Option Char :=
  if h : n.isValidChar then some (Char.ofNatAux n h) else none

/-- The character that a number of hexadecimal digits names. -/
def readCodePoint (count : Nat) (s : List Char) : Option (Char × List Char) :=
  match readHex 0 count s with
  | some (n, rest) => (charOf? n).map fun c ↦ (c, rest)
  | none => none

/-- What a backslash makes of the characters after it. -/
def readEscape : Parser Char
  | 'b' :: rest => some ('\x08', rest)
  | 't' :: rest => some ('\t', rest)
  | 'n' :: rest => some ('\n', rest)
  | 'f' :: rest => some ('\x0c', rest)
  | 'r' :: rest => some ('\r', rest)
  | 'e' :: rest => some ('\x1b', rest)
  | '"' :: rest => some ('"', rest)
  | '\\' :: rest => some ('\\', rest)
  | 'x' :: rest => readCodePoint 2 rest
  | 'u' :: rest => readCodePoint 4 rest
  | 'U' :: rest => readCodePoint 8 rest
  | _ => none

/-- The rest of a string on one line, the characters before being kept in reverse. -/
def readBasic (read : List Char) : Nat → Parser String
  | 0, _ => none
  | fuel + 1, s =>
    match s with
    | [] => none
    | '"' :: rest => some (String.ofList read.reverse, rest)
    | '\\' :: rest =>
      match readEscape rest with
      | some (c, rest) => readBasic (c :: read) fuel rest
      | none => none
    | c :: rest => if isForbidden c then none else readBasic (c :: read) fuel rest

/-- The rest of a literal string on one line. -/
def readLiteral (read : List Char) : Parser String
  | [] => none
  | c :: rest =>
    if c = '\x27' then some (String.ofList read.reverse, rest)
    else if isForbidden c then none
    else readLiteral (c :: read) rest

/-- What follows spaces, tabs and line ends. -/
def skipBlankLines : List Char → List Char
  | '\r' :: '\n' :: rest => skipBlankLines rest
  | c :: rest => if c = ' ' || c = '\t' || c = '\n' then skipBlankLines rest else c :: rest
  | [] => []

/-- What follows a backslash at the end of a line, with the blank lines and spaces after it. -/
def skipContinuation (s : List Char) : Option (List Char) :=
  (lineEnd? (skipSpace s)).map skipBlankLines

/-- How many of the first five characters in a row are the quote. -/
def quoteRun (quote : Char) (s : List Char) : Nat :=
  ((s.take 5).takeWhile (· = quote)).length

/-- The rest of a string of several lines, whose line ends stay as they are written.  Up to two
quotes before the closing three belong to it. -/
def readMultiline (quote : Char) (read : List Char) : Nat → Parser String
  | 0, _ => none
  | fuel + 1, s =>
    let quotes := quoteRun quote s
    if 3 ≤ quotes then
      let content := List.replicate (quotes - 3) quote ++ read
      some (String.ofList content.reverse, s.drop quotes)
    else
      match s with
      | [] => none
      | '\r' :: '\n' :: rest => readMultiline quote ('\n' :: '\r' :: read) fuel rest
      | c :: rest =>
        if c = '\\' && quote = '"' then
          match skipContinuation rest with
          | some rest => readMultiline quote read fuel rest
          | none =>
            match readEscape rest with
            | some (c, rest) => readMultiline quote (c :: read) fuel rest
            | none => none
        else if isForbidden c && c ≠ '\n' then none
        else readMultiline quote (c :: read) fuel rest

/-- What follows a line end, which opens a string of several lines without belonging to it. -/
def afterFirstLineEnd (s : List Char) : List Char :=
  (lineEnd? s).getD s

/-- A string of any of the four kinds. -/
def readString : Parser String
  | '"' :: '"' :: '"' :: rest =>
    readMultiline '"' [] (rest.length + 1) (afterFirstLineEnd rest)
  | '\x27' :: '\x27' :: '\x27' :: rest =>
    readMultiline '\x27' [] (rest.length + 1) (afterFirstLineEnd rest)
  | '"' :: rest => readBasic [] (rest.length + 1) rest
  | '\x27' :: rest => readLiteral [] rest
  | _ => none

/-! ## Keys -/

/-- A character of a key without quotes. -/
def isBareKeyChar (c : Char) : Bool :=
  c.isAlphanum || c = '_' || c = '-'

/-- A key without points outside quotes. -/
def readSimpleKey : Parser String
  | '"' :: rest => readBasic [] (rest.length + 1) rest
  | '\x27' :: rest => readLiteral [] rest
  | s =>
    let word := s.takeWhile isBareKeyChar
    if word.isEmpty then none else some (String.ofList word, s.dropWhile isBareKeyChar)

/-- Keys joined by points, with spaces allowed around them, after those in `keys`, which are kept
in reverse. -/
def readKeyFrom (keys : List String) : Nat → Parser (List String)
  | 0, _ => none
  | fuel + 1, s =>
    match readSimpleKey (skipSpace s) with
    | none => none
    | some (key, rest) =>
      match skipSpace rest with
      | '.' :: rest => readKeyFrom (key :: keys) fuel rest
      | rest => some ((key :: keys).reverse, rest)

/-- How many parts a key may have, and how many arrays and inline tables may be open at once. -/
def maxDepth : Nat := 80

/-- A key, as the path of its parts. -/
def readKey (s : List Char) : Option (List String × List Char) :=
  match readKeyFrom [] (s.length + 1) s with
  | some (path, rest) => if path.length ≤ maxDepth then some (path, rest) else none
  | none => none

end Turnstile.Toml
