/-!
# White space

White space is the Unicode property `White_Space`: twenty-five characters, most of them outside
ASCII.  Trimming and splitting below work on character lists and never look inside a word, so what
they keep is kept verbatim.
-/

namespace Turnstile.Text

/-- A character of the Unicode property `White_Space`. -/
def isBlank (c : Char) : Bool :=
  let n := c.toNat
  (9 ≤ n && n ≤ 13) || n == 0x20 || n == 0x85 || n == 0xA0 || n == 0x1680 ||
    (0x2000 ≤ n && n ≤ 0x200A) || n == 0x2028 || n == 0x2029 || n == 0x202F || n == 0x205F ||
    n == 0x3000

/-- The text without leading white space. -/
def trimStart (s : List Char) : List Char :=
  s.dropWhile isBlank

/-- The text without trailing white space. -/
def trimEnd (s : List Char) : List Char :=
  (s.reverse.dropWhile isBlank).reverse

/-- The text without white space at either end. -/
def trim (s : List Char) : List Char :=
  trimEnd (trimStart s)

theorem length_trimStart_le (s : List Char) : (trimStart s).length ≤ s.length :=
  (List.dropWhile_sublist _).length_le

/-- Splits on, the words found so far and the characters of the word being read being kept in
reverse. -/
def wordsFrom (found : List (List Char)) (word : List Char) : List Char → List (List Char)
  | [] => (if word.isEmpty then found else word.reverse :: found).reverse
  | c :: rest =>
    if isBlank c then
      if word.isEmpty then wordsFrom found [] rest
      else wordsFrom (word.reverse :: found) [] rest
    else wordsFrom found (c :: word) rest

/-- The maximal runs of characters that are not white space. -/
def words (s : List Char) : List (List Char) :=
  wordsFrom [] [] s

end Turnstile.Text
