import Turnstile.Error
import Turnstile.Text.Blank
import Turnstile.Text.Quoted
import Turnstile.Text.Numeral

/-!
# Append batches

A batch is a bracketed list of bracketed operations, such as `[[:append 1 10] [:r 1 nil]]`.  Every
operation has three words.  Keys and values are kept as they were written; whether they are numbers
is for the store to say.
-/

namespace Turnstile.Batch

/-- One operation of a batch. -/
inductive Operation where
  | read (key : String)
  | append (key value : String)
deriving DecidableEq, Repr

/-- Why a document is no batch. -/
inductive Fault where
  | notEnclosed
  | notOpened (rest : String)
  | notClosed (rest : String)
  | nested (element : String)
  | wordCount (element : String) (count : Nat)
  | readWithValue (key value : String)
  | unknown (name : String)
deriving DecidableEq, Repr

/-- The start of a text, for messages. -/
def excerpt (s : List Char) : String :=
  String.ofList (s.take 16)

/-- The fault as a failure. -/
def Fault.error : Fault → Error
  | notEnclosed => .malformedBatch "batch must be enclosed in brackets"
  | notOpened rest => .malformedBatch ("expected '[' before " ++ Text.quoted rest)
  | notClosed rest => .malformedBatch ("unterminated operation " ++ Text.quoted rest)
  | nested element => .malformedBatch ("nested brackets in operation [" ++ element ++ "]")
  | wordCount element count =>
    .malformedBatch ("expected 3 tokens in [" ++ element ++ "], got " ++ Numeral.write count)
  | readWithValue key value =>
    .malformedBatch ("read of " ++ key ++ " must carry nil, got " ++ value)
  | unknown name => .unknownOperation name

/-- The operation of three words. -/
def ofWords (name key value : List Char) : Except Fault Operation :=
  match name with
  | [':', 'r'] =>
    if value = ['n', 'i', 'l'] then .ok (.read (String.ofList key))
    else .error (.readWithValue (String.ofList key) (String.ofList value))
  | [':', 'a', 'p', 'p', 'e', 'n', 'd'] =>
    .ok (.append (String.ofList key) (String.ofList value))
  | name => .error (.unknown (String.ofList name))

/-- The operation between a pair of brackets. -/
def parseElement (element : List Char) : Except Fault Operation :=
  if element.contains '[' then .error (.nested (String.ofList element))
  else
    match Text.words element with
    | [name, key, value] => ofWords name key value
    | words => .error (.wordCount (String.ofList element) words.length)

/-- Reads elements to the end of the text, the operations before them being kept in reverse. -/
def parseElements (operations : List Operation) (s : List Char) :
    Except Fault (List Operation) :=
  match _h : Text.trimStart s with
  | [] => .ok operations.reverse
  | c :: body =>
    if c ≠ '[' then .error (.notOpened (excerpt (c :: body)))
    else
      match _h' : body.dropWhile (· ≠ ']') with
      | [] => .error (.notClosed (excerpt (c :: body)))
      | _ :: rest =>
        match parseElement (body.takeWhile (· ≠ ']')) with
        | .ok operation => parseElements (operation :: operations) rest
        | .error fault => .error fault
termination_by s.length
decreasing_by
  have h₁ := Text.length_trimStart_le s
  have h₂ := (List.dropWhile_sublist (l := body) (· ≠ ']')).length_le
  simp only [_h, _h', List.length_cons] at h₁ h₂
  omega

/-- What stands between the outer brackets of a document. -/
def unwrap (s : List Char) : Option (List Char) :=
  match s with
  | '[' :: rest =>
    match rest.getLast? with
    | some ']' => some rest.dropLast
    | _ => none
  | _ => none

/-- The operations of a document. -/
def parseChars (document : List Char) : Except Fault (List Operation) :=
  match unwrap (Text.trim document) with
  | some inner => parseElements [] inner
  | none => .error .notEnclosed

/-- The operations of a document. -/
def parse (document : String) : Except Error (List Operation) :=
  match parseChars document.toList with
  | .ok operations => .ok operations
  | .error fault => .error fault.error

end Turnstile.Batch
