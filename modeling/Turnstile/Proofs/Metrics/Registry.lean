import Mathlib.Algebra.GroupWithZero.Nat
import Mathlib.Data.String.Basic
import Turnstile.Metrics.Registry

/-!
# What a registry counts

Endpoints and kinds are kept in order, so a change of one entry is found again under its key and leaves
the entries of all other keys as they are.  Every failure is counted for its endpoint and for its kind,
so the two totals agree whatever has been counted.
-/

namespace Turnstile

/-! ## Ordered association lists -/

namespace Ordered

variable {α : Type} {key : String} {fallback : α} {f : α → α} {entries : List (String × α)}

/-- The keys increase. -/
def Increasing (entries : List (String × α)) : Prop :=
  entries.Pairwise fun a b ↦ a.1 < b.1

theorem eq_or_mem_of_mem_alter {entry : String × α} (hentry : entry ∈ alter key fallback f entries) :
    entry.1 = key ∨ ∃ a, (entry.1, a) ∈ entries := by
  induction entries with
  | nil => exact .inl (congrArg Prod.fst (List.mem_singleton.1 hentry))
  | cons first rest ih =>
    obtain ⟨k, a⟩ := first
    unfold alter at hentry
    split at hentry
    case isTrue heq =>
      obtain rfl | hrest := List.mem_cons.1 hentry
      · exact .inl heq.symm
      · exact .inr ⟨entry.2, List.mem_cons_of_mem _ hrest⟩
    case isFalse =>
      split at hentry
      case isTrue =>
        obtain rfl | hold := List.mem_cons.1 hentry
        · exact .inl rfl
        · exact .inr ⟨entry.2, hold⟩
      case isFalse =>
        obtain rfl | hrest := List.mem_cons.1 hentry
        · exact .inr ⟨a, List.mem_cons_self⟩
        · obtain heq | ⟨b, hb⟩ := ih hrest
          · exact .inl heq
          · exact .inr ⟨b, List.mem_cons_of_mem _ hb⟩

theorem Increasing.alter (hentries : Increasing entries) :
    Increasing (alter key fallback f entries) := by
  induction entries with
  | nil => exact List.pairwise_singleton _ _
  | cons first rest ih =>
    obtain ⟨k, a⟩ := first
    obtain ⟨hfirst, hrest⟩ := List.pairwise_cons.1 hentries
    unfold Ordered.alter
    split
    case isTrue => exact List.pairwise_cons.2 ⟨hfirst, hrest⟩
    case isFalse hne =>
      split
      case isTrue hlt =>
        refine List.pairwise_cons.2 ⟨?_, hentries⟩
        intro entry hentry
        obtain rfl | hlater := List.mem_cons.1 hentry
        · exact hlt
        · exact lt_trans hlt (hfirst entry hlater)
      case isFalse hnlt =>
        have hlt : k < key := lt_of_le_of_ne (not_lt.1 hnlt) (Ne.symm hne)
        refine List.pairwise_cons.2 ⟨?_, ih hrest⟩
        intro entry hentry
        obtain heq | ⟨b, hb⟩ := eq_or_mem_of_mem_alter hentry
        · exact heq ▸ hlt
        · exact hfirst (entry.1, b) hb

/-- The entries of other keys stay as they are. -/
theorem lookup_alter_of_ne {k : String} (hne : k ≠ key) :
    (alter key fallback f entries).lookup k = entries.lookup k := by
  induction entries with
  | nil => simp [alter, hne]
  | cons first rest ih =>
    obtain ⟨k', a⟩ := first
    unfold alter
    split
    case isTrue heq =>
      have hk : (k == k') = false := beq_false_of_ne (heq ▸ hne)
      simp [List.lookup_cons, hk]
    case isFalse =>
      split
      case isTrue =>
        have hkey : (k == key) = false := beq_false_of_ne hne
        simp only [List.lookup_cons, hkey]
      case isFalse => simp only [List.lookup_cons, ih]

theorem lookup_eq_none_of_lt (hlt : ∀ entry ∈ entries, key < entry.1) :
    entries.lookup key = none := by
  rw [List.lookup_eq_none_iff]
  intro entry hentry
  exact bne_iff_ne.2 (ne_of_lt (hlt entry hentry))

/-- The entry of the key is changed, or made from the fallback. -/
theorem lookup_alter_self (hentries : Increasing entries) :
    (alter key fallback f entries).lookup key = some (f ((entries.lookup key).getD fallback)) := by
  induction entries with
  | nil => simp [alter]
  | cons first rest ih =>
    obtain ⟨k, a⟩ := first
    obtain ⟨hfirst, hrest⟩ := List.pairwise_cons.1 hentries
    unfold alter
    split
    case isTrue heq => simp [heq]
    case isFalse hne =>
      have hk : (key == k) = false := beq_false_of_ne hne
      split
      case isTrue hlt =>
        have hnone : rest.lookup key = none :=
          lookup_eq_none_of_lt fun entry hentry ↦ lt_trans hlt (hfirst entry hentry)
        simp [List.lookup_cons, hk, hnone]
      case isFalse => simp [List.lookup_cons, hk, ih hrest]

/-- A change that adds to what is measured of an entry adds as much to the total. -/
theorem sum_alter (measure : α → Nat) {gain : Nat} (hfallback : measure fallback = 0)
    (hf : ∀ a, measure (f a) = measure a + gain) :
    ((alter key fallback f entries).map fun entry ↦ measure entry.2).sum =
      (entries.map fun entry ↦ measure entry.2).sum + gain := by
  induction entries with
  | nil => simp [alter, hf, hfallback]
  | cons first rest ih =>
    unfold alter
    split
    case isTrue =>
      simp only [List.map_cons, List.sum_cons, hf]
      omega
    case isFalse =>
      split
      case isTrue =>
        simp only [List.map_cons, List.sum_cons, hf, hfallback]
        omega
      case isFalse =>
        simp only [List.map_cons, List.sum_cons, ih]
        omega

end Ordered

/-! ## Registries -/

namespace Metrics.Registry

open Ordered (Increasing)

variable {r : Registry}

/-- The failures of all endpoints. -/
def failures (r : Registry) : Nat :=
  (r.endpoints.map fun entry ↦ entry.2.errors).sum

/-- The failures of all kinds. -/
def failuresByKind (r : Registry) : Nat :=
  (r.errorsByKind.map fun entry ↦ entry.2).sum

/-- Endpoints are in order, and every failure of an endpoint has a kind. -/
structure Sound (r : Registry) : Prop where
  endpoints : Increasing r.endpoints
  failures : r.failuresByKind = r.failures

theorem sound_empty : Sound empty := ⟨.nil, rfl⟩

theorem Sound.increment (hr : r.Sound) (c : Counter) : (r.increment c).Sound := by
  cases c with
  | contention | maskedContention | schemaRetries => exact ⟨hr.endpoints, hr.failures⟩

theorem endpoints_record (name : String) (elapsed : Duration) (error : Option Error) :
    (r.record name elapsed error).endpoints =
      Ordered.alter name .empty (·.record elapsed error.isSome) r.endpoints := by
  cases error <;> rfl

theorem failures_record (name : String) (elapsed : Duration) (error : Option Error) :
    (r.record name elapsed error).failures = r.failures + error.isSome.toNat := by
  unfold failures
  rw [endpoints_record]
  apply Ordered.sum_alter EndpointMetrics.errors rfl
  intro m
  cases error <;> rfl

theorem failuresByKind_record (name : String) (elapsed : Duration) (error : Option Error) :
    (r.record name elapsed error).failuresByKind = r.failuresByKind + error.isSome.toNat := by
  cases error with
  | none => rfl
  | some e => exact Ordered.sum_alter id rfl fun _ ↦ rfl

theorem Sound.record (hr : r.Sound) (name : String) (elapsed : Duration) (error : Option Error) :
    (r.record name elapsed error).Sound where
  endpoints := by
    rw [endpoints_record]
    exact hr.endpoints.alter
  failures := by
    rw [failuresByKind_record, failures_record, hr.failures]

/-- A request is counted for its own endpoint and no other. -/
theorem Sound.endpoint_record (hr : r.Sound) (name other : String) (elapsed : Duration)
    (error : Option Error) :
    (r.record name elapsed error).endpoint other =
      if other = name then (r.endpoint name).record elapsed error.isSome else r.endpoint other := by
  unfold endpoint
  rw [endpoints_record]
  split
  case isTrue heq =>
    rw [heq, Ordered.lookup_alter_self hr.endpoints]
    rfl
  case isFalse hne => rw [Ordered.lookup_alter_of_ne hne]

end Metrics.Registry

end Turnstile
