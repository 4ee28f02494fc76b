import Turnstile.Error

/-!
# Arguments of a program

A command line is a sequence of options with values and of words.  An option is written `--name`
with its value as the next argument, or `--name=value`; only in the second form may the value start
with a dash.  Help and the version can also be asked for by a letter after a single dash.  After a
lone `--` there are words only.  The arguments are read from left to right; the first one that is
wrong, or that asks for help or the version, decides.
-/

namespace Turnstile.CommandLine

/-- How a program ends: its exit code and what it has written to its two outputs. -/
structure Ending where
  code : Nat
  output : String
  errors : String
deriving DecidableEq, Repr

/-- The end of a program with a failure, told with its cause if it has one of its own. -/
def Ending.ofError (e : Error) : Ending where
  code := 1
  output := ""
  errors :=
    "Error: " ++ e.message ++ "\n" ++
      match e with
      | .io reason => "\nCaused by:\n    " ++ reason ++ "\n"
      | _ => ""

/-- Why a program does not get to work. -/
inductive Refusal where
  /-- The arguments are wrong. -/
  | usage
  | help
  | version
  /-- The program is stopped while a value is read. -/
  | panic
deriving DecidableEq, Repr

/-- The end of a program that does not get to work.  What is written when it is stopped is not its
own text and left out. -/
def Refusal.ending (usage version : String) : Refusal → Ending
  | .usage => ⟨2, "", usage⟩
  | .help => ⟨0, usage, ""⟩
  | .version => ⟨0, version ++ "\n", ""⟩
  | .panic => ⟨101, "", ""⟩

/-- A value is refused unless it passes the test. -/
def onlyIf (test : String → Bool) (value : String) : Option Refusal :=
  if test value then none else some .usage

/-- An option that takes a value. -/
structure Flag where
  name : String
  /-- Whether it may be given more than once. -/
  repeats : Bool
  /-- Why a value is not taken, if it is not. -/
  refusal? : String → Option Refusal

/-- What a program takes. -/
structure Grammar where
  flags : List Flag
  /-- How many words it takes at most. -/
  words : Nat
  hasVersion : Bool
  /-- Whether the first word ends the reading, as a command with arguments of its own does. -/
  stopsAtWord : Bool

/-- What a program has been given: options in order, words in order, and the arguments that are not
read. -/
structure Arguments where
  options : List (String × String)
  words : List String
  rest : List String
deriving DecidableEq, Repr

namespace Arguments

def empty : Arguments := ⟨[], [], []⟩

/-- The value of an option that is given once at most. -/
def value? (a : Arguments) (name : String) : Option String :=
  a.options.lookup name

/-- The values of an option that may be given more than once. -/
def values (a : Arguments) (name : String) : List String :=
  (a.options.filter (·.1 = name)).map (·.2)

/-- Adds an option, if the grammar takes it. -/
def addOption (g : Grammar) (a : Arguments) (name value : String) : Except Refusal Arguments :=
  match g.flags.find? (·.name = name) with
  | none => .error .usage
  | some flag =>
    if !flag.repeats && (a.value? name).isSome then .error .usage
    else
      match flag.refusal? value with
      | some r => .error r
      | none => .ok { a with options := a.options ++ [(name, value)] }

/-- Adds a word, if the grammar takes one more. -/
def addWord (g : Grammar) (a : Arguments) (word : String) : Except Refusal Arguments :=
  if a.words.length < g.words then .ok { a with words := a.words ++ [word] } else .error .usage

/-- What the letters after a single dash ask for.  Only help and the version have a letter, and the
first letter decides. -/
def refusalOfLetters (g : Grammar) : List Char → Refusal
  | 'h' :: _ => .help
  | 'V' :: _ => if g.hasVersion then .version else .usage
  | _ => .usage

/-- Whether an argument is written like an option. -/
def isDashed (argument : String) : Bool :=
  argument.startsWith "-" && argument ≠ "-"

/-- What an argument is. -/
inductive Kind where
  | word (text : String)
  /-- No options follow. -/
  | noMore
  /-- An option whose value is the next argument. -/
  | pending (name : String)
  | complete (name value : String)
  | refused (r : Refusal)

/-- What an argument is to a grammar. -/
def kindOf (g : Grammar) (argument : String) : Kind :=
  if argument = "--" then (if g.stopsAtWord then .refused .usage else .noMore)
  else if argument.startsWith "--" then
    let text := (argument.drop 2).toString.toList
    let name := String.ofList (text.takeWhile (· ≠ '='))
    match text.dropWhile (· ≠ '=') with
    | _ :: value => .complete name (String.ofList value)
    | [] =>
      if name = "help" then .refused .help
      else if name = "version" ∧ g.hasVersion then .refused .version
      else .pending name
  else if isDashed argument then .refused (refusalOfLetters g (argument.toList.drop 1))
  else .word argument

/-- Reads arguments after those that have been read. -/
def readFrom (g : Grammar) (a : Arguments) : List String → Except Refusal Arguments
  | [] => .ok a
  | [argument] =>
    match kindOf g argument with
    | .word text => a.addWord g text
    | .noMore => .ok a
    | .pending _ => .error .usage
    | .complete name value => a.addOption g name value
    | .refused r => .error r
  | argument :: next :: others =>
    match kindOf g argument with
    | .word text =>
      match a.addWord g text with
      | .error r => .error r
      | .ok a => if g.stopsAtWord then .ok { a with rest := next :: others }
          else a.readFrom g (next :: others)
    | .noMore => (next :: others).foldlM (fun a text ↦ a.addWord g text) a
    | .pending name =>
      if isDashed next then .error .usage
      else
        match a.addOption g name next with
        | .error r => .error r
        | .ok a => a.readFrom g others
    | .complete name value =>
      match a.addOption g name value with
      | .error r => .error r
      | .ok a => a.readFrom g (next :: others)
    | .refused r => .error r

/-- Reads the arguments of a program. -/
def read (g : Grammar) (arguments : List String) : Except Refusal Arguments :=
  empty.readFrom g arguments

end Arguments

end Turnstile.CommandLine
