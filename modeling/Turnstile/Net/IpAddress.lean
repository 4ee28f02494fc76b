/-!
# IP addresses

The texts of IPv4 and IPv6 addresses.  An IPv4 address is four decimal octets without leading
zeros.  An IPv6 address is eight groups of up to four hexadecimal digits, where one run of zero
groups may be written `::` and the last two groups may be written as an IPv4 address.

The canonical text of an IPv6 address is in lower case and abbreviates its longest run of two or
more zero groups, the first of several; an IPv4-mapped address ends in its IPv4 address.
-/

namespace Turnstile.Net

/-- An IP address of either version. -/
inductive IpAddress where
  | v4 (octets : Vector UInt8 4)
  | v6 (groups : Vector UInt16 8)
deriving DecidableEq, Repr

namespace IpAddress

/-! ## Reading -/

/-- The value of a digit in base ten or sixteen. -/
def digit? (base : Nat) (c : Char) : Option Nat :=
  let value :=
    if '0' ≤ c ∧ c ≤ '9' then c.toNat - '0'.toNat
    else if 'a' ≤ c ∧ c ≤ 'f' then c.toNat - 'a'.toNat + 10
    else if 'A' ≤ c ∧ c ≤ 'F' then c.toNat - 'A'.toNat + 10
    else 16
  if value < base then some value else none

/-- Reads the longest run of digits, at most `limit` of them, and what follows it. -/
def readDigits (base limit value count : Nat) : List Char → Option (Nat × Nat × List Char)
  | [] => if count = 0 then none else some (value, count, [])
  | c :: rest =>
    match digit? base c with
    | some d =>
      if count < limit then readDigits base limit (base * value + d) (count + 1) rest else none
    | none => if count = 0 then none else some (value, count, c :: rest)

/-- An octet: a decimal number below 256 without leading zeros. -/
def readOctet (s : List Char) : Option (Nat × List Char) :=
  match readDigits 10 3 0 0 s with
  | some (value, count, rest) =>
    if 256 ≤ value || (s.head? == some '0' && 1 < count) then none else some (value, rest)
  | none => none

/-- A group: one to four hexadecimal digits. -/
def readGroup (s : List Char) : Option (Nat × List Char) :=
  (readDigits 16 4 0 0 s).map fun (value, _, rest) ↦ (value, rest)

/-- Reads `c`. -/
def readChar (c : Char) : List Char → Option (List Char)
  | d :: rest => if d = c then some rest else none
  | [] => none

/-- Four octets with points between them. -/
def readOctets (s : List Char) : Option (List Nat × List Char) := do
  let (a, s) ← readOctet s
  let (b, s) ← readOctet (← readChar '.' s)
  let (c, s) ← readOctet (← readChar '.' s)
  let (d, s) ← readOctet (← readChar '.' s)
  return ([a, b, c, d], s)

/-- The two groups that four octets fill. -/
def groupsOfOctets : List Nat → List Nat
  | [a, b, c, d] => [256 * a + b, 256 * c + d]
  | _ => []

/-- Reads groups, `room` at most, with colons between them and before the first one unless
`leading` holds.  The flag of the result says whether they end in an embedded IPv4 address, which
needs room for two. -/
def readGroups (leading : Bool) (s : List Char) : Nat → List Nat × Bool × List Char
  | 0 => ([], false, s)
  | room + 1 =>
    match if leading then some s else readChar ':' s with
    | none => ([], false, s)
    | some t =>
      match if room = 0 then none else readOctets t with
      | some (octets, rest) => (groupsOfOctets octets, true, rest)
      | none =>
        match readGroup t with
        | none => ([], false, s)
        | some (value, rest) =>
          let (groups, embedded, rest) := readGroups false rest room
          (value :: groups, embedded, rest)

/-- Eight groups, or fewer around one `::`. -/
def readAllGroups (s : List Char) : Option (List Nat × List Char) :=
  let (head, embedded, rest) := readGroups true s 8
  if head.length = 8 then some (head, rest)
  else if embedded then none
  else
    match rest with
    | ':' :: ':' :: rest =>
      let (tail, _, rest) := readGroups true rest (7 - head.length)
      some (head ++ List.replicate (8 - head.length - tail.length) 0 ++ tail, rest)
    | _ => none

/-- The address that a whole text writes. -/
def parse (text : String) : Option IpAddress :=
  match readOctets text.toList with
  | some (octets, []) =>
    let octets := octets.map UInt8.ofNat
    if h : octets.length = 4 then some (.v4 ⟨octets.toArray, by simp [h]⟩) else none
  | some (_, _ :: _) => none
  | none =>
    match readAllGroups text.toList with
    | some (groups, []) =>
      let groups := groups.map UInt16.ofNat
      if h : groups.length = 8 then some (.v6 ⟨groups.toArray, by simp [h]⟩) else none
    | _ => none

/-! ## Writing -/

/-- Four octets in base ten with points between them. -/
def octetsText (octets : List Nat) : String :=
  String.intercalate "." (octets.map Nat.repr)

/-- Groups in base sixteen with colons between them. -/
def groupsText (groups : List Nat) : String :=
  String.intercalate ":" (groups.map fun g ↦ String.ofList (Nat.toDigits 16 g))

/-- The number of leading zero groups. -/
def zeroRun (groups : List Nat) : Nat :=
  (groups.takeWhile (· = 0)).length

/-- The place and length of the longest run of zero groups, the first of several. -/
def longestZeroRun (groups : List Nat) : Nat × Nat :=
  (List.range groups.length).foldl (fun best start ↦
    let size := zeroRun (groups.drop start)
    if best.2 < size then (start, size) else best) (0, 0)

/-- The text of eight groups. -/
def groupsWithRun (groups : List Nat) : String :=
  match groups with
  | [0, 0, 0, 0, 0, 0xFFFF, g, h] =>
    "::ffff:" ++ octetsText [g / 256, g % 256, h / 256, h % 256]
  | groups =>
    let (start, size) := longestZeroRun groups
    if size ≤ 1 then groupsText groups
    else groupsText (groups.take start) ++ "::" ++ groupsText (groups.drop (start + size))

/-- The canonical text of an address. -/
def text : IpAddress → String
  | .v4 octets => octetsText (octets.toList.map UInt8.toNat)
  | .v6 groups => groupsWithRun (groups.toList.map UInt16.toNat)

end IpAddress

end Turnstile.Net
