import Turnstile.Net.Address
import Turnstile.Net.IpAddress
import Turnstile.Proofs.Text.Numeral
import Turnstile.Proofs.Text.Parts

/-!
# Hosts of addresses

No two pairs of a host and a port have the same address.  The host of an address is found between
square brackets or before the last colon, which gives the host that it was made of unless that has
brackets in the wrong place.  The text of an IP address has hexadecimal digits, points and colons, so it
is always found again.
-/

namespace Turnstile.Net

namespace IpAddress

/-- A character of the text of an IP address. -/
def isPart (c : Char) : Bool :=
  (digit? 16 c).isSome || c == '.' || c == ':'

variable {c : Char}

theorem isPart_of_mem_toDigits (n : Nat) (hc : c ∈ Nat.toDigits 16 n) : isPart c := by
  induction n using Nat.strongRecOn with
  | ind n ih =>
    have hdigit : ∀ d < 16, isPart (Nat.digitChar d) := by decide
    rw [Nat.toDigits_eq_if (by decide)] at hc
    split at hc
    case isTrue hlt =>
      obtain rfl := List.mem_singleton.1 hc
      exact hdigit n hlt
    case isFalse hge =>
      obtain hfirst | hlast := List.mem_append.1 hc
      · exact ih (n / 16) (Nat.div_lt_self (by omega) (by decide)) hfirst
      · obtain rfl := List.mem_singleton.1 hlast
        exact hdigit (n % 16) (Nat.mod_lt n (by decide))

theorem isPart_of_isDigit (hc : c.isDigit) : isPart c := by
  simp only [Char.isDigit, Bool.and_eq_true, decide_eq_true_eq] at hc
  have hdigit : '0' ≤ c ∧ c ≤ '9' := hc
  have hlow : '0'.toNat ≤ c.toNat := hc.1
  have hhigh : c.toNat ≤ '9'.toNat := hc.2
  have hvalue : c.toNat - '0'.toNat < 16 := by
    have hlast : '9'.toNat - '0'.toNat < 16 := by decide
    omega
  simp only [isPart, digit?, if_pos hdigit, if_pos hvalue, Option.isSome_some, Bool.true_or]

theorem isPart_of_mem_octetsText {octets : List Nat} :
    ∀ c ∈ (octetsText octets).toList, isPart c := by
  rw [octetsText, String.toList_intercalate]
  refine Text.forall_mem_intercalate (P := fun c ↦ isPart c) (List.forall_mem_singleton.2 rfl) ?_
  intro part hpart c hc
  obtain ⟨text, htext, rfl⟩ := List.mem_map.1 hpart
  obtain ⟨octet, _, rfl⟩ := List.mem_map.1 htext
  exact isPart_of_isDigit (Numeral.isDigit_of_mem_repr hc)

theorem isPart_of_mem_groupsText {groups : List Nat} :
    ∀ c ∈ (groupsText groups).toList, isPart c := by
  rw [groupsText, String.toList_intercalate]
  refine Text.forall_mem_intercalate (P := fun c ↦ isPart c) (List.forall_mem_singleton.2 rfl) ?_
  intro part hpart c hc
  obtain ⟨text, htext, rfl⟩ := List.mem_map.1 hpart
  obtain ⟨group, _, rfl⟩ := List.mem_map.1 htext
  rw [String.toList_ofList] at hc
  exact isPart_of_mem_toDigits group hc

theorem isPart_of_mem_groupsWithRun {groups : List Nat} :
    ∀ c ∈ (groupsWithRun groups).toList, isPart c := by
  have happend {a b : String} (ha : ∀ c ∈ a.toList, isPart c) (hb : ∀ c ∈ b.toList, isPart c) :
      ∀ c ∈ (a ++ b).toList, isPart c := by
    intro c hc
    rw [String.toList_append, List.mem_append] at hc
    exact hc.elim (ha c) (hb c)
  unfold groupsWithRun
  split
  · exact happend (List.all_eq_true.1 rfl) isPart_of_mem_octetsText
  · simp only
    split
    · exact isPart_of_mem_groupsText
    · exact happend (happend isPart_of_mem_groupsText (List.all_eq_true.1 rfl)) isPart_of_mem_groupsText

theorem isPart_of_mem_text (ip : IpAddress) : ∀ c ∈ ip.text.toList, isPart c := by
  cases ip with
  | v4 octets => exact isPart_of_mem_octetsText
  | v6 groups => exact isPart_of_mem_groupsWithRun

end IpAddress

namespace Address

variable {name name' : String} {port port' : Nat}

/-! ## Different addresses -/

/-- A host as it stands before the port. -/
def enclose (name : String) : String :=
  if ':' ∈ name.toList then "[" ++ name ++ "]" else name

theorem toList_make (name : String) (port : Nat) :
    (make name port).toList = (enclose name).toList ++ ':' :: (Numeral.write port).toList := by
  unfold make enclose
  by_cases hcolon : ':' ∈ name.toList <;> simp [hcolon]

/-- No colon of an address comes after the one before the port. -/
theorem beforeLastColon_make (name : String) (port : Nat) :
    beforeLastColon (make name port).toList = (enclose name).toList := by
  have hdigits : ':' ∉ (Numeral.write port).toList.reverse := fun hmem ↦
    absurd (Numeral.isDigit_or_eq_of_mem_write (List.mem_reverse.1 hmem)) (by decide)
  have hdropped : (make name port).toList.reverse.dropWhile (· ≠ ':') =
      ':' :: (enclose name).toList.reverse := by
    rw [toList_make, List.reverse_append, List.reverse_cons, List.append_assoc,
      Text.dropWhile_ne_append hdigits]
    exact List.dropWhile_cons_of_neg (by simp)
  rw [beforeLastColon, hdropped]
  exact List.reverse_reverse _

/-- A host in brackets has a colon, one without brackets has none. -/
theorem enclose_injective : Function.Injective enclose := by
  intro host host' h
  have hmixed {a b : String} (ha : ':' ∈ a.toList) (hb : ':' ∉ b.toList) :
      "[" ++ a ++ "]" ≠ b := by
    rintro rfl
    exact hb (by simp [ha])
  unfold enclose at h
  split at h <;> split at h
  case isTrue.isTrue => simpa [String.append_assoc] using h
  case isTrue.isFalse ha hb => exact absurd h (hmixed ha hb)
  case isFalse.isTrue ha hb => exact absurd h.symm (hmixed hb ha)
  case isFalse.isFalse => exact h

/-- Different hosts or ports have different addresses. -/
theorem make_inj : make name port = make name' port' ↔ name = name' ∧ port = port' := by
  constructor
  · intro h
    have hbefore := congrArg (fun address ↦ beforeLastColon address.toList) h
    simp only [beforeLastColon_make] at hbefore
    have hname : name = name' := enclose_injective (String.toList_inj.1 hbefore)
    subst hname
    have hchars := congrArg String.toList h
    rw [toList_make, toList_make] at hchars
    have hport := (List.cons.inj (List.append_cancel_left hchars)).2
    exact ⟨rfl, Int.ofNat.inj (Numeral.write_injective (String.toList_inj.1 hport))⟩
  · rintro ⟨rfl, rfl⟩
    rfl

theorem make_injective (port : Nat) : Function.Injective (make · port) :=
  fun _ _ h ↦ (make_inj.1 h).1

/-! ## The host again -/

/-- The host can be told from what is added to it in an address. -/
def Separable (name : String) : Prop :=
  if ':' ∈ name.toList then ']' ∉ name.toList else name.toList.head? ≠ some '['

theorem host_of_bracket {address : String} {rest : List Char} (haddress : address.toList = '[' :: rest) :
    host address = String.ofList (rest.takeWhile (· ≠ ']')) := by
  simp only [host, haddress]

theorem host_of_not_bracket {address : String} (haddress : address.toList.head? ≠ some '[') :
    host address = String.ofList (beforeLastColon address.toList) := by
  unfold host
  split
  case h_1 heq => exact absurd (heq ▸ rfl) haddress
  case h_2 => rfl

theorem host_make_of_colon (hcolon : ':' ∈ name.toList) (port : Nat) :
    host (make name port) = name ↔ ']' ∉ name.toList := by
  have hchars : (make name port).toList =
      '[' :: (name.toList ++ ']' :: ':' :: (Numeral.write port).toList) := by
    simp [toList_make, enclose, hcolon]
  rw [host_of_bracket hchars]
  constructor
  · intro h
    rw [← h, String.toList_ofList]
    exact Text.notMem_takeWhile_ne ']' _
  · intro hclose
    rw [Text.takeWhile_ne_append hclose, List.takeWhile_cons_of_neg (by simp), List.append_nil,
      String.ofList_toList]

theorem host_make_of_notMem (hcolon : ':' ∉ name.toList) (port : Nat) :
    host (make name port) = name ↔ name.toList.head? ≠ some '[' := by
  have henclose : enclose name = name := if_neg hcolon
  constructor
  · intro h hopen
    obtain ⟨rest, hname⟩ := List.head?_eq_some_iff.1 hopen
    have hchars : (make name port).toList =
        '[' :: (rest ++ ':' :: (Numeral.write port).toList) := by
      rw [toList_make, henclose, hname]
      rfl
    rw [host_of_bracket hchars] at h
    have hkept : (rest ++ ':' :: (Numeral.write port).toList).takeWhile (· ≠ ']') = name.toList := by
      rw [← h, String.toList_ofList]
    -- What is kept ends before a bracket of the name, or else goes on with the colon before the port.
    by_cases hclose : ']' ∈ rest
    · exact Text.notMem_takeWhile_ne ']' _ (by rw [hkept, hname]; exact List.mem_cons_of_mem _ hclose)
    · rw [Text.takeWhile_ne_append hclose, List.takeWhile_cons_of_pos (by simp)] at hkept
      exact hcolon (hkept ▸ by simp)
  · intro hopen
    have haddress : (make name port).toList.head? ≠ some '[' := by
      rw [toList_make, henclose]
      cases hname : name.toList with
      | nil => simp
      | cons c more => simpa [hname] using hopen
    rw [host_of_not_bracket haddress, beforeLastColon_make, henclose, String.ofList_toList]

/-- The host of an address is the one that it was made of exactly if that is separable. -/
theorem host_make_iff (name : String) (port : Nat) :
    host (make name port) = name ↔ Separable name := by
  unfold Separable
  split
  case isTrue hcolon => exact host_make_of_colon hcolon port
  case isFalse hcolon => exact host_make_of_notMem hcolon port

/-- Without brackets of its own a host is separable. -/
theorem separable_of_notMem (hopen : '[' ∉ name.toList) (hclose : ']' ∉ name.toList) :
    Separable name := by
  unfold Separable
  split
  case isTrue => exact hclose
  case isFalse => exact fun hhead ↦ hopen (List.mem_of_head? hhead)

/-- The host of an address is the one that it was made of, unless that has brackets itself. -/
theorem host_make (hopen : '[' ∉ name.toList) (hclose : ']' ∉ name.toList) (port : Nat) :
    host (make name port) = name :=
  (host_make_iff name port).2 (separable_of_notMem hopen hclose)

/-- An IP address is the host of its node's address. -/
theorem host_make_text (ip : IpAddress) (port : Nat) : host (make ip.text port) = ip.text := by
  apply host_make
  · exact fun hmem ↦ absurd (ip.isPart_of_mem_text _ hmem) (by decide)
  · exact fun hmem ↦ absurd (ip.isPart_of_mem_text _ hmem) (by decide)

/-- A host without brackets is found again in its address with any port, and no other host or port has
that address. -/
theorem recovered (hopen : '[' ∉ name.toList) (hclose : ']' ∉ name.toList) (port : Nat) :
    host (make name port) = name ∧
      ∀ (name' : String) (port' : Nat),
        make name port = make name' port' ↔ name = name' ∧ port = port' :=
  ⟨host_make hopen hclose port, fun _ _ ↦ make_inj⟩

/-- An IPv6 address that ends in colons, with the last port. -/
theorem recovered_colonEnded :
    ('[' ∉ "fe80::".toList ∧ ']' ∉ "fe80::".toList) ∧
      make "fe80::" 65535 = "[fe80::]:65535" ∧ host (make "fe80::" 65535) = "fe80::" ∧
      make "fe80::" 65535 ≠ make "fe80:" 65535 := by
  have hopen : '[' ∉ "fe80::".toList := by decide
  have hclose : ']' ∉ "fe80::".toList := by decide
  obtain ⟨hhost, hsame⟩ := recovered hopen hclose 65535
  exact ⟨⟨hopen, hclose⟩, rfl, hhost, fun h ↦ absurd ((hsame "fe80:" 65535).1 h).1 (by decide)⟩

end Address

end Turnstile.Net
