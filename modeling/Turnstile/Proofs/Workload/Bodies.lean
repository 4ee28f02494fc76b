import Turnstile.Client.Basic
import Turnstile.Proofs.Edn.Grammar
import Turnstile.Workload.Bank

/-!
# Bodies of bank requests

A request to the bank is a map literal, and only what it binds to the required keywords matters: the
order of the pairs, what separates the tokens, other keys and later pairs under the same key make no
difference.  The bodies that the client builds are such literals, so the server decodes each to the
request that the client was asked for.
-/

namespace Turnstile

namespace Edn

variable {name : String} {value : Form} {pairs : List (Form × Form)}

/-- The first of the pairs under the keyword has the value. -/
def FirstUnder (name : String) (value : Form) (pairs : List (Form × Form)) : Prop :=
  ∃ before after, pairs = before ++ (.keyword name, value) :: after ∧
    ∀ p ∈ before, p.1 ≠ .keyword name

theorem FirstUnder.valueOf (hfirst : FirstUnder name value pairs) :
    Form.valueOf name pairs = some value := by
  obtain ⟨before, after, rfl, hbefore⟩ := hfirst
  induction before with
  | nil => exact if_pos rfl
  | cons p before ih =>
    obtain ⟨hp, hrest⟩ := List.forall_mem_cons.1 hbefore
    rw [List.cons_append]
    unfold Form.valueOf
    split
    case h_1 heq => exact nomatch heq
    case h_2 k v rest heq =>
      obtain ⟨rfl, rfl⟩ := List.cons.inj heq
      have hk : k ≠ name := fun hk ↦ hp (congrArg Form.keyword hk)
      rw [if_neg hk, ih hrest]
    case h_3 heq =>
      obtain ⟨_, rfl⟩ := List.cons.inj heq
      exact ih hrest

/-- The text is a map literal that binds every one of the keywords to its value. -/
def Binds (text : String) (bindings : List (String × Form)) : Prop :=
  ∃ pairs, Literals maxDepth text.toList [.map pairs] ∧ ∀ b ∈ bindings, FirstUnder b.1 b.2 pairs

theorem Binds.read {text : String} {bindings : List (String × Form)} (hbinds : Binds text bindings) :
    ∃ f, Edn.read text = .ok f ∧ ∀ b ∈ bindings, f.require b.1 = .ok b.2 := by
  obtain ⟨pairs, hliterals, hfirst⟩ := hbinds
  refine ⟨.map pairs, hliterals.read (Nat.le_refl maxDepth), fun b hb ↦ ?_⟩
  have hget : (Form.map pairs).get? b.1 = .ok (some b.2) :=
    congrArg Except.ok (hfirst b hb).valueOf
  rw [Form.require, hget]

/-- A keyword and the text of its value. -/
def field (name text : String) : String :=
  String.intercalate " " [":" ++ name, text]

theorem literals_field {depth : Nat} {text : String} (hne : name.toList ≠ [])
    (hplain : name.toList.all (Plain ·)) (hvalue : Literals depth text.toList [value]) :
    Literals depth (field name text).toList [.keyword name, value] := by
  have hkeyword : (":" ++ name).toList = ':' :: name.toList := by simp
  exact .spaced (.cons (.keyword hkeyword hne hplain depth) (.cons hvalue .nil))

end Edn

namespace Workload.Bank

open Edn (Binds Form Literals field literals_field)

theorem requireInt_of_require {f : Form} {keyword : String} {n : Int64}
    (hrequire : f.require keyword = .ok (.int n)) : requireInt f keyword = .ok n := by
  rw [requireInt, hrequire]
  rfl

/-! ## Transfers -/

namespace Transfer

/-- The text asks for the transfer. -/
def SpelledBy (r : Transfer) (text : String) : Prop :=
  Binds text [("from", .int r.source), ("to", .int r.target), ("amount", .int r.amount)]

theorem parse_of_spelledBy {r : Transfer} {text : String} (hspelled : r.SpelledBy text) :
    parse text = .ok r := by
  obtain ⟨f, hread, hrequire⟩ := hspelled.read
  have hsource := requireInt_of_require (hrequire ("from", .int r.source) (by simp))
  have htarget := requireInt_of_require (hrequire ("to", .int r.target) (by simp))
  have hamount := requireInt_of_require (hrequire ("amount", .int r.amount) (by simp))
  calc parse text
    _ = ofForm f := by rw [parse, hread]; rfl
    _ = .ok r := by rw [ofForm, hsource, htarget, hamount]; rfl

/-- The body that the client builds asks for the transfer. -/
theorem spelledBy_transferBody (r : Transfer) :
    r.SpelledBy (Client.transferBody r.source r.target r.amount) := by
  let fields : List (String × Form × Form) :=
    [(field "from" (Numeral.writeInt64 r.source), .keyword "from", .int r.source),
      (field "to" (Numeral.writeInt64 r.target), .keyword "to", .int r.target),
      (field "amount" (Numeral.writeInt64 r.amount), .keyword "amount", .int r.amount)]
  have hbody : Client.transferBody r.source r.target r.amount =
      "\x7b" ++ String.intercalate ", " (fields.map Prod.fst) ++ "\x7d" := by
    apply String.toList_inj.1
    simp [Client.transferBody, fields, field]
  have hfields : ∀ a ∈ fields, Literals 31 a.1.toList [a.2.1, a.2.2] := by
    simp only [fields, List.forall_mem_cons]
    refine ⟨?_, ?_, ?_, nofun⟩
    all_goals exact literals_field (by decide) (by decide) (.writeInt64 _ 31)
  refine ⟨fields.map Prod.snd, hbody ▸ Literals.map hfields, ?_⟩
  simp only [List.forall_mem_cons]
  refine ⟨⟨[], _, rfl, nofun⟩, ⟨[_], _, rfl, ?_⟩, ⟨[_, _], _, rfl, ?_⟩, nofun⟩
  all_goals simp

end Transfer

/-! ## Account creations -/

namespace Opening

/-- The text asks for the accounts. -/
def SpelledBy (r : Opening) (text : String) : Prop :=
  ∃ accounts, (accounts = .vector (r.accounts.map .int) ∨ accounts = .list (r.accounts.map .int)) ∧
    Binds text [("accounts", accounts), ("total-amount", .int r.totalAmount)]

theorem collectInts_map_int (read ids : List Int64) :
    collectInts read (ids.map .int) = .ok (read.reverse ++ ids) := by
  induction ids generalizing read with
  | nil => simp [collectInts]
  | cons id rest ih =>
    calc collectInts read ((id :: rest).map .int)
      _ = collectInts (id :: read) (rest.map .int) := rfl
      _ = .ok ((id :: read).reverse ++ rest) := ih (id :: read)
      _ = .ok (read.reverse ++ id :: rest) := by simp

/-- Ids are collected from a vector and from a list. -/
theorem ids_of_require {f accounts : Form} {ids : List Int64}
    (hrequire : f.require "accounts" = .ok accounts)
    (hshape : accounts = .vector (ids.map .int) ∨ accounts = .list (ids.map .int)) :
    (f.require "accounts" >>= Form.asSeq >>= collectInts []) = .ok ids := by
  have hitems : accounts.asSeq = .ok (ids.map .int) := by
    rcases hshape with rfl | rfl <;> rfl
  calc (f.require "accounts" >>= Form.asSeq >>= collectInts [])
    _ = accounts.asSeq >>= collectInts [] := by rw [hrequire]; rfl
    _ = collectInts [] (ids.map .int) := by rw [hitems]; rfl
    _ = .ok ids := collectInts_map_int [] ids

/-- Without accounts there is nothing to ask for. -/
theorem parse_of_spelledBy {r : Opening} {text : String} (hspelled : r.SpelledBy text) :
    parse text =
      if r.accounts = [] then .error (.malformedRequest "no accounts given") else .ok r := by
  obtain ⟨accounts, hshape, hbinds⟩ := hspelled
  obtain ⟨f, hread, hrequire⟩ := hbinds.read
  have hids := ids_of_require (hrequire ("accounts", accounts) (by simp)) hshape
  have htotal := requireInt_of_require
    (hrequire ("total-amount", .int r.totalAmount) (by simp))
  have hparse : parse text = ofForm f := by
    rw [parse, hread]
    rfl
  rw [hparse, ofForm, hids, htotal]
  by_cases hempty : r.accounts = []
  · rw [if_pos hempty, hempty]
    rfl
  · rw [if_neg hempty]
    change (if r.accounts.isEmpty then _ else _) = _
    rw [if_neg (by simpa using hempty)]
    rfl

/-- The body that the client builds asks for the accounts. -/
theorem spelledBy_accountsBody (r : Opening) :
    r.SpelledBy (Client.accountsBody r.accounts r.totalAmount) := by
  let ids := r.accounts.map Numeral.writeInt64
  let accounts : Form := .vector (r.accounts.map .int)
  let fields : List (String × Form × Form) :=
    [(field "accounts" ("[" ++ String.intercalate " " ids ++ "]"), .keyword "accounts", accounts),
      (field "total-amount" (Numeral.writeInt64 r.totalAmount), .keyword "total-amount",
        .int r.totalAmount)]
  have hbody : Client.accountsBody r.accounts r.totalAmount =
      "\x7b" ++ String.intercalate ", " (fields.map Prod.fst) ++ "\x7d" := by
    apply String.toList_inj.1
    simp [Client.accountsBody, fields, field, ids]
  have hfields : ∀ a ∈ fields, Literals 31 a.1.toList [a.2.1, a.2.2] := by
    simp only [fields, List.forall_mem_cons]
    refine ⟨?_, ?_, nofun⟩
    · exact literals_field (by decide) (by decide) (.vector (Literals.integers r.accounts 30))
    · exact literals_field (by decide) (by decide) (.writeInt64 r.totalAmount 31)
  refine ⟨accounts, .inl rfl, fields.map Prod.snd, hbody ▸ Literals.map hfields, ?_⟩
  simp only [List.forall_mem_cons]
  refine ⟨⟨[], _, rfl, nofun⟩, ⟨[_], _, rfl, ?_⟩, nofun⟩
  simp

end Opening

/-! ## Both requests -/

/-- A transfer is decoded from every text that asks for it, and the client sends such a text. -/
structure Transfer.Understood (r : Transfer) : Prop where
  parsed : ∀ text, r.SpelledBy text → parse text = .ok r
  sent : ∃ body, (Client.Call.transfer r.source r.target r.amount).message.body = some body ∧
    r.SpelledBy body

/-- An account creation is decoded from every text that asks for it, and the client sends such a text.
Without accounts every such text is refused. -/
structure Opening.Understood (r : Opening) : Prop where
  parsed : r.accounts ≠ [] → ∀ text, r.SpelledBy text → parse text = .ok r
  sent : ∃ body, (Client.Call.createAccounts r.accounts r.totalAmount).message.body = some body ∧
    r.SpelledBy body
  refused : r.accounts = [] → ∀ text, r.SpelledBy text →
    parse text = .error (.malformedRequest "no accounts given")

/-- Bodies are decoded to the requests that were meant, in every spelling. -/
theorem understood (transfer : Transfer) (opening : Opening) :
    transfer.Understood ∧ opening.Understood where
  left :=
    { parsed _ hspelled := Transfer.parse_of_spelledBy hspelled
      sent := ⟨_, rfl, transfer.spelledBy_transferBody⟩ }
  right :=
    { parsed hne _ hspelled := (Opening.parse_of_spelledBy hspelled).trans (if_neg hne)
      sent := ⟨_, rfl, opening.spelledBy_accountsBody⟩
      refused hempty _ hspelled := (Opening.parse_of_spelledBy hspelled).trans (if_pos hempty) }

/-- A transfer with its keys out of order, one of them twice, and a note. -/
def jumbled : String :=
  "\x7b :amount 5,,\n:to\t+03 :note(\"\x7d\\\"\"nil) :from -9223372036854775808 :to 9\x7d"

theorem spelledBy_jumbled : Transfer.SpelledBy ⟨Int64.minValue, 3, 5⟩ jumbled := by
  let note : List Char := '"' :: (['\x7d', '\\', '"'] ++ '"' :: "nil".toList)
  have htext : jumbled.toList = '\x7b' :: ((' ' :: (":amount".toList ++ ' ' :: ("5".toList ++
      ',' :: ',' :: '\n' :: (":to".toList ++ '\t' :: ("+03".toList ++ ' ' :: (":note".toList ++
      '(' :: (note ++ ')' :: ' ' :: (":from".toList ++ ' ' :: ("-9223372036854775808".toList ++
      ' ' :: (":to".toList ++ ' ' :: "9".toList)))))))))) ++ ['\x7d']) := by
    decide
  have hkeyword {text name : String} {c : Char} {rest : List Char} {forms : List Form}
      (htext : text.toList = ':' :: name.toList)
      (hname : name.toList ≠ [] ∧ name.toList.all (Edn.Plain ·)) (hc : ¬ Edn.Plain c)
      (hrest : Literals 31 (c :: rest) forms) :
      Literals 31 (text.toList ++ c :: rest) (.keyword name :: forms) :=
    (Literals.keyword htext hname.1 hname.2 31).append hrest (.cons hc rest)
  have hint {text : String} {n : Int64} {c : Char} {rest : List Char} {forms : List Form}
      (hread : Numeral.readInt64 text.toList = some n) (hc : ¬ Edn.Plain c)
      (hrest : Literals 31 (c :: rest) forms) :
      Literals 31 (text.toList ++ c :: rest) (.int n :: forms) :=
    (Literals.int (Numeral.readInt64_eq_some.1 hread) 31).append hrest (.cons hc rest)
  have hnote : Literals 30 note [.str "\x7d\"", .nil] :=
    .str (.char (by decide) (by decide) (.escaped (by decide) (by decide) .nil))
      (.word (.reserved .nil) 30)
  have hnine : Literals 31 "9".toList [.int 9] :=
    .int (Numeral.readInt64_eq_some.1 (by decide)) 31
  refine ⟨[(.keyword "amount", .int 5), (.keyword "to", .int 3),
    (.keyword "note", .list [.str "\x7d\"", .nil]), (.keyword "from", .int Int64.minValue),
    (.keyword "to", .int 9)], ?_, ?_⟩
  · rw [htext]
    refine .collection .curly (.gap (by decide) ?_) (.map _) (.nil 32)
    refine hkeyword rfl (by decide) (by decide) (.gap (by decide) ?_)
    refine hint (by decide) (by decide) (.gap (by decide) (.gap (by decide) (.gap (by decide) ?_)))
    refine hkeyword rfl (by decide) (by decide) (.gap (by decide) ?_)
    refine hint (by decide) (by decide) (.gap (by decide) ?_)
    refine hkeyword rfl (by decide) (by decide) (.collection .round hnote (.list _) ?_)
    refine .gap (by decide) (hkeyword rfl (by decide) (by decide) (.gap (by decide) ?_))
    refine hint (by decide) (by decide) (.gap (by decide) ?_)
    exact hkeyword rfl (by decide) (by decide) (.gap (by decide) hnine)
  · simp only [List.forall_mem_cons]
    refine ⟨⟨[_, _, _], _, rfl, ?_⟩, ⟨[_], _, rfl, ?_⟩, ⟨[], _, rfl, nofun⟩, nofun⟩
    all_goals simp

theorem understood_jumbled :
    Transfer.SpelledBy ⟨Int64.minValue, 3, 5⟩ jumbled ∧
      Transfer.parse jumbled = .ok ⟨Int64.minValue, 3, 5⟩ ∧
      Opening.parse (Client.accountsBody [] 7) = .error (.malformedRequest "no accounts given") := by
  obtain ⟨htransfer, hopening⟩ := understood ⟨Int64.minValue, 3, 5⟩ ⟨[], 7⟩
  exact ⟨spelledBy_jumbled, htransfer.parsed jumbled spelledBy_jumbled,
    hopening.refused rfl _ (Opening.spelledBy_accountsBody ⟨[], 7⟩)⟩

end Workload.Bank

end Turnstile
