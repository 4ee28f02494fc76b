import Turnstile.Batch
import Turnstile.Proofs.Text.Parts

/-!
# Tokens of batches

The keys and values of a batch are words of its document, so there is no white space in them.
-/

namespace Turnstile.Batch

/-- The key of an operation, and its value if it has one. -/
def Operation.tokens : Operation → List String
  | read key => [key]
  | append key value => [key, value]

/-- The tokens of an operation are words. -/
def Operation.Worded (operation : Operation) : Prop :=
  ∀ token ∈ operation.tokens, Text.IsWord token.toList

variable {operation : Operation} {operations : List Operation}

theorem worded_of_ofWords {name key value : List Char} (hkey : Text.IsWord key)
    (hvalue : Text.IsWord value) (hread : ofWords name key value = .ok operation) :
    operation.Worded := by
  unfold ofWords at hread
  split at hread
  case h_1 =>
    split at hread
    case isTrue =>
      obtain rfl := Except.ok.inj hread
      simpa [Operation.Worded, Operation.tokens] using hkey
    case isFalse => cases hread
  case h_2 =>
    obtain rfl := Except.ok.inj hread
    simpa [Operation.Worded, Operation.tokens] using ⟨hkey, hvalue⟩
  case h_3 => cases hread

theorem worded_of_parseElement {element : List Char}
    (hread : parseElement element = .ok operation) : operation.Worded := by
  unfold parseElement at hread
  split at hread
  case isTrue => cases hread
  case isFalse =>
    split at hread
    case h_1 name key value hwords =>
      have hword := Text.isWord_of_mem_words element
      rw [hwords] at hword
      exact worded_of_ofWords (hword key (by simp)) (hword value (by simp)) hread
    case h_2 => cases hread

theorem worded_of_parseElements {before : List Operation} {s : List Char}
    (hbefore : ∀ operation ∈ before, operation.Worded)
    (hread : parseElements before s = .ok operations) :
    ∀ operation ∈ operations, operation.Worded := by
  fun_induction parseElements before s with
  | case1 before s =>
    obtain rfl := Except.ok.inj hread
    exact fun operation hmem ↦ hbefore operation (List.mem_reverse.1 hmem)
  | case2 | case3 | case5 => cases hread
  | case4 before s _ body _ _ _ rest _ operation helement ih =>
    exact ih (List.forall_mem_cons.2 ⟨worded_of_parseElement helement, hbefore⟩) hread

theorem worded_of_parse {document : String} (hparse : parse document = .ok operations) :
    ∀ operation ∈ operations, operation.Worded := by
  unfold parse parseChars at hparse
  cases hinner : unwrap (Text.trim document.toList) with
  | none =>
    rw [hinner] at hparse
    cases hparse
  | some inner =>
    simp only [hinner] at hparse
    cases hread : parseElements [] inner with
    | error fault =>
      rw [hread] at hparse
      cases hparse
    | ok found =>
      rw [hread] at hparse
      obtain rfl := Except.ok.inj hparse
      exact worded_of_parseElements (fun _ hmem ↦ absurd hmem List.not_mem_nil) hread

end Turnstile.Batch
