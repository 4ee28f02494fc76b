import Turnstile.Text.Printable

/-!
# Quoted text

Error messages show a client's text between double quotes.  A quote, a backslash and the common
controls have a short escape, every other character that is not printable is written by its code
point in lower-case hexadecimal, and the rest stand for themselves.
-/

namespace Turnstile.Text

/-- The form of one character inside quotes. -/
def quotedChar (c : Char) : List Char :=
  match c with
  | '"' => ['\\', '"']
  | '\\' => ['\\', '\\']
  | '\n' => ['\\', 'n']
  | '\r' => ['\\', 'r']
  | '\t' => ['\\', 't']
  | '\x00' => ['\\', '0']
  | c =>
    if isPrintable c then [c]
    else ['\\', 'u', '\x7b'] ++ Nat.toDigits 16 c.toNat ++ ['\x7d']

/-- The text between double quotes, on one line and unambiguous. -/
def quoted (s : String) : String :=
  String.ofList ('"' :: s.toList.flatMap quotedChar ++ ['"'])

end Turnstile.Text
