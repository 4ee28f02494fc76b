import Mathlib.Data.List.Induction
import Mathlib.Data.Prod.Lex
import Mathlib.Order.Compare
import Turnstile.Metrics.Histogram

/-!
# What a histogram counts

Floating-point numbers are in a linear order, in which both zeros have one place; what is no number is
comparable to nothing.  So the boundaries that a latency does not exceed are the last ones, and the
running total at a boundary counts the latencies that do not exceed it.
-/

namespace Turnstile.Metrics

open Float.Model (UnpackedFloat)

/-! ## Comparison -/

/-- The place of a number among all: by its sign, then by its exponent and its mantissa.  The infinities
are beyond all others. -/
def rank? : UnpackedFloat → Option (Int ×ₗ Int ×ₗ Int)
  | .notANumber => none
  | .infinity .negative => some (toLex (-2, toLex (0, 0)))
  | .finite .negative m e _ => some (toLex (-1, toLex (-e, -m)))
  | .zero _ => some (toLex (0, toLex (0, 0)))
  | .finite .positive m e _ => some (toLex (1, toLex (e, m)))
  | .infinity .positive => some (toLex (2, toLex (0, 0)))

theorem isLE_then_compare (e f : Int) (m n : Nat) :
    ((compare e f).then (compare m n)).isLE ↔ e < f ∨ e = f ∧ m ≤ n := by
  rw [Ordering.isLE_then_iff_or, compare_lt_iff_lt, compare_eq_iff_eq, Nat.isLE_compare]

theorem isGE_then_compare (e f : Int) (m n : Nat) :
    ((compare e f).then (compare m n)).isGE ↔ f < e ∨ e = f ∧ n ≤ m := by
  rw [← Ordering.isLE_swap, Ordering.swap_then, Int.compare_swap, Nat.compare_swap,
    isLE_then_compare, eq_comm]

/-- Numbers are compared by their places. -/
theorem unpacked_le_iff_rank? (x y : UnpackedFloat) :
    x.le y ↔ ∃ a b, rank? x = some a ∧ rank? y = some b ∧ a ≤ b := by
  obtain (_ | _) | _ | _ | ⟨(_ | _), m, e, hm⟩ := x <;>
  obtain (_ | _) | _ | _ | ⟨(_ | _), n, f, hn⟩ := y <;>
  dsimp only [UnpackedFloat.le, UnpackedFloat.compare, rank?] <;>
  simp [Prod.Lex.le_iff, isLE_then_compare, isGE_then_compare]
  all_goals rfl

theorem le_iff_rank? {x y : Float} :
    x ≤ y ↔ ∃ a b, rank? x.toModel.unpack = some a ∧ rank? y.toModel.unpack = some b ∧ a ≤ b :=
  decide_eq_true_iff.trans (unpacked_le_iff_rank? _ _)

theorem float_le_trans {x y z : Float} (hxy : x ≤ y) (hyz : y ≤ z) : x ≤ z := by
  rw [le_iff_rank?] at *
  obtain ⟨a, b, hx, hy, hab⟩ := hxy
  obtain ⟨b', c, hy', hz, hbc⟩ := hyz
  obtain rfl := Option.some.inj (hy.symm.trans hy')
  exact ⟨a, c, hx, hz, hab.trans hbc⟩

theorem not_le_of_isNaN {x : Float} (hx : x.isNaN) (y : Float) : ¬ x ≤ y := by
  have hnan : x.toModel.unpack.isNaN := hx
  rw [le_iff_rank?]
  rintro ⟨a, b, ha, _, _⟩
  generalize x.toModel.unpack = u at ha hnan
  cases u with
  | notANumber => cases ha
  | infinity | zero | finite => cases hnan

theorem countP_concat {α : Type} (p : α → Bool) (l : List α) (a : α) :
    (l ++ [a]).countP p = l.countP p + (p a).toNat := by
  rw [List.countP_append, List.countP_singleton]
  cases p a <;> rfl

namespace Histogram

/-! ## Running totals -/

variable {buckets : List Nat} {t : Nat}

theorem runningTotals_succ (t : Nat) (buckets : List Nat) :
    runningTotals (t + 1) buckets = (runningTotals t buckets).map (· + 1) := by
  induction buckets generalizing t with
  | nil => rfl
  | cons n rest ih =>
    rw [runningTotals, runningTotals, List.map_cons, Nat.add_right_comm, ih]

/-- One more in the first bucket adds one to all totals. -/
theorem runningTotals_modify_zero :
    runningTotals t (buckets.modify 0 (· + 1)) = (runningTotals t buckets).map (· + 1) := by
  cases buckets with
  | nil => rfl
  | cons n rest =>
    rw [List.modify_zero_cons, runningTotals, runningTotals, List.map_cons, ← Nat.add_assoc,
      runningTotals_succ]

/-- One more in the first bucket whose boundary passes, or else in the last one, adds one to the totals
at all boundaries that pass and to the last one, if after one that passes all do. -/
theorem runningTotals_modify {bs : List Float} {f : Float → Nat} {last : Nat} {pass : Float → Bool}
    (htotals : runningTotals t buckets = bs.map f ++ [last])
    (hlater : bs.Pairwise fun a b ↦ pass a → pass b) :
    runningTotals t (buckets.modify (bs.findIdx pass) (· + 1)) =
      bs.map (fun b ↦ f b + (pass b).toNat) ++ [last + 1] := by
  induction bs generalizing buckets t with
  | nil =>
    rw [List.findIdx_nil, runningTotals_modify_zero, htotals]
    rfl
  | cons b bs ih =>
    obtain ⟨hfirst, hrest⟩ := List.pairwise_cons.1 hlater
    cases hb : pass b with
    | true =>
      have hall : ∀ b' ∈ b :: bs, f b' + 1 = f b' + (pass b').toNat := by
        intro b' hb'
        obtain rfl | hmem := List.mem_cons.1 hb'
        · rw [hb, Bool.toNat_true]
        · rw [hfirst b' hmem hb, Bool.toNat_true]
      rw [List.findIdx_cons, hb, cond_true, runningTotals_modify_zero, htotals, List.map_append,
        List.map_map, ← List.map_congr_left hall]
      rfl
    | false =>
      cases buckets with
      | nil => cases htotals
      | cons n rest =>
        obtain ⟨htotal, htail⟩ := List.cons.inj htotals
        rw [List.findIdx_cons, hb, cond_false, List.modify_succ_cons, runningTotals, ih htail hrest,
          List.map_cons, hb, htotal]
        rfl

/-- Running totals do not decrease. -/
theorem pairwise_runningTotals (t : Nat) (buckets : List Nat) :
    (∀ total ∈ runningTotals t buckets, t ≤ total) ∧
      (runningTotals t buckets).Pairwise (· ≤ ·) := by
  induction buckets generalizing t with
  | nil => exact ⟨nofun, .nil⟩
  | cons n rest ih =>
    obtain ⟨hleast, hpairwise⟩ := ih (t + n)
    refine ⟨?_, List.pairwise_cons.2 ⟨hleast, hpairwise⟩⟩
    intro total htotal
    obtain rfl | hrest := List.mem_cons.1 htotal
    · exact Nat.le_add_right t n
    · exact (Nat.le_add_right t n).trans (hleast total hrest)

/-! ## Latencies -/

/-- How many latencies do not exceed a boundary. -/
def within (le : Float) (latencies : List Float) : Nat :=
  latencies.countP fun x ↦ decide (x ≤ le)

/-- The histogram counts the latencies: at each boundary those that do not exceed it, and at the end
all of them. -/
structure Counts (h : Histogram) (latencies : List Float) : Prop where
  cumulative : h.cumulative =
    boundaries.map (fun le ↦ (some le, within le latencies)) ++ [(none, latencies.length)]
  nondecreasing : (h.cumulative.map Prod.snd).Pairwise (· ≤ ·)
  count : h.count = latencies.length

/-- The histogram of latencies that are observed one after another. -/
def observeAll (latencies : List Float) : Histogram :=
  latencies.foldl observe empty

theorem observeAll_concat (latencies : List Float) (x : Float) :
    observeAll (latencies ++ [x]) = (observeAll latencies).observe x :=
  List.foldl_append ..

theorem pairwise_boundaries : boundaries.Pairwise (· ≤ ·) := by decide

theorem within_concat (le : Float) (latencies : List Float) (x : Float) :
    within le (latencies ++ [x]) = within le latencies + (decide (x ≤ le)).toNat :=
  countP_concat _ latencies x

theorem runningTotals_observeAll (latencies : List Float) :
    runningTotals 0 (observeAll latencies).buckets =
      boundaries.map (fun le ↦ within le latencies) ++ [latencies.length] := by
  induction latencies using List.reverseRecOn with
  | nil => rfl
  | append_singleton latencies x ih =>
    have hlater : boundaries.Pairwise fun a b ↦ decide (x ≤ a) → decide (x ≤ b) :=
      pairwise_boundaries.imp fun hab hxa ↦
        decide_eq_true (float_le_trans (of_decide_eq_true hxa) hab)
    rw [observeAll_concat]
    refine (runningTotals_modify ih hlater).trans ?_
    simp only [within_concat, List.length_append, List.length_singleton]

theorem count_observeAll (latencies : List Float) :
    (observeAll latencies).count = latencies.length := by
  induction latencies using List.reverseRecOn with
  | nil => rfl
  | append_singleton latencies x ih =>
    rw [observeAll_concat, List.length_append, ← ih]
    rfl

/-- What is no number does not count under any boundary. -/
theorem within_filter_isNaN (le : Float) (latencies : List Float) :
    within le (latencies.filter fun x ↦ !x.isNaN) = within le latencies := by
  unfold within
  rw [List.countP_filter]
  apply List.countP_congr
  intro x _
  rw [Bool.and_eq_true, Bool.not_eq_true', decide_eq_true_iff]
  refine ⟨And.left, fun hle ↦ ⟨hle, ?_⟩⟩
  rw [Bool.eq_false_iff]
  exact fun hnan ↦ not_le_of_isNaN hnan le hle

theorem cumulative_observeAll (latencies : List Float) :
    (observeAll latencies).cumulative =
      boundaries.map (fun le ↦ (some le, within le latencies)) ++ [(none, latencies.length)] := by
  rw [cumulative, runningTotals_observeAll, List.zip_append (by simp), List.zip_map']
  rfl

theorem counts_observeAll (latencies : List Float) : (observeAll latencies).Counts latencies where
  cumulative := cumulative_observeAll latencies
  nondecreasing := by
    have htotals : (observeAll latencies).cumulative.map Prod.snd =
        runningTotals 0 (observeAll latencies).buckets := by
      rw [cumulative_observeAll, runningTotals_observeAll, List.map_append, List.map_map]
      rfl
    rw [htotals]
    exact (pairwise_runningTotals 0 _).2
  count := count_observeAll latencies

end Histogram

end Turnstile.Metrics
