import Mathlib.Algebra.BigOperators.Group.List.Basic
import Mathlib.Data.Bool.Count
import Mathlib.Data.List.MinMax
import Mathlib.Tactic.FieldSimp
import Mathlib.Tactic.Ring
import SimCheck.Sample
import SimCheck.Scalar.Exact

/-!
# Moments of a sample

A sample is summarised in one pass, each observation changing what is there.  The same summary can be
read off the list of all observations in two passes: first their sum and their mean, then the deviations
from that mean.  In exact arithmetic both agree in every entry, so that the order of the observations
does not matter.

* `Exact.mean`, `Exact.scatter`, `Exact.variance`: the mean of a list, the sum of the squared deviations
  from it, and the unbiased variance;
* `Exact.summary`: the summary of a list in two passes;
* `Exact.summary_append_singleton`: one more observation changes it as `Sample.push` does;
* `Sample.one_pass_eq_two_passes`: the two summaries of real observations, in any order;
* `Exact.scatter_indicators`: among `n` Boolean observations with `k` positive ones the squared
  deviations add up to `k (n - k) / n`.
-/

namespace SimCheck

/-! ### Moments of a list -/

namespace Exact

noncomputable def mean (xs : List ℝ) : ℝ := xs.sum / xs.length

/-- The sum of the squared deviations from the mean. -/
noncomputable def scatter (xs : List ℝ) : ℝ := (xs.map fun x => (x - mean xs) ^ 2).sum

/-- The unbiased variance. -/
noncomputable def variance (xs : List ℝ) : ℝ := scatter xs / (xs.length - 1)

@[simp] theorem mean_nil : mean [] = 0 := by simp [mean]

@[simp] theorem scatter_nil : scatter [] = 0 := by simp [scatter]

theorem length_append_singleton (xs : List ℝ) (x : ℝ) :
    ((xs ++ [x]).length : ℝ) = xs.length + 1 := by
  simp

theorem sum_map_sub_sq (xs : List ℝ) (m : ℝ) :
    (xs.map fun x => (x - m) ^ 2).sum
      = (xs.map (· ^ 2)).sum - 2 * m * xs.sum + xs.length * m ^ 2 := by
  induction xs with
  | nil => simp
  | cons x xs ih =>
    rw [List.map_cons, List.map_cons, List.sum_cons, List.sum_cons, List.sum_cons, ih,
      List.length_cons, Nat.cast_add_one]
    ring

/-- The squared deviations by the sum of the squares. -/
theorem scatter_eq (xs : List ℝ) :
    scatter xs = (xs.map (· ^ 2)).sum - xs.sum ^ 2 / xs.length := by
  rcases eq_or_ne xs [] with rfl | hne
  · simp
  have hlength : (xs.length : ℝ) ≠ 0 := by simpa using hne
  rw [scatter, sum_map_sub_sq, mean]
  field_simp
  ring

theorem mean_append_singleton (xs : List ℝ) (x : ℝ) :
    mean (xs ++ [x]) = mean xs + (x - mean xs) / (xs.length + 1) := by
  rcases eq_or_ne xs [] with rfl | hne
  · simp [mean]
  have hlength : (xs.length : ℝ) ≠ 0 := by simpa using hne
  rw [mean, mean, List.sum_append, List.sum_singleton, length_append_singleton]
  field_simp
  ring

/-- **One observation adds the product of its deviations from the mean before and after it to the
squared deviations.** -/
theorem scatter_append_singleton (xs : List ℝ) (x : ℝ) :
    scatter (xs ++ [x]) = scatter xs + (x - mean xs) * (x - mean (xs ++ [x])) := by
  rcases eq_or_ne xs [] with rfl | hne
  · simp [scatter, mean]
  have hlength : (xs.length : ℝ) ≠ 0 := by simpa using hne
  rw [scatter_eq, scatter_eq, mean, mean, List.map_append, List.sum_append, List.sum_append,
    length_append_singleton]
  simp only [List.map_singleton, List.sum_singleton]
  field_simp
  ring

end Exact

/-! ### Summaries in two passes -/

namespace Exact

theorem min?_append_singleton (xs : List ℝ) (x : ℝ) :
    (xs ++ [x]).min? = some (xs.min?.elim x fun m => min m x) := by
  cases xs with
  | nil => rfl
  | cons y ys =>
    rw [List.cons_append, List.min?_cons', List.min?_cons', List.foldl_append]
    rfl

theorem max?_append_singleton (xs : List ℝ) (x : ℝ) :
    (xs ++ [x]).max? = some (xs.max?.elim x fun m => max m x) := by
  cases xs with
  | nil => rfl
  | cons y ys =>
    rw [List.cons_append, List.max?_cons', List.max?_cons', List.foldl_append]
    rfl

/-- The summary of a list by the definitions of its entries. -/
noncomputable def summary (xs : List ℝ) : Sample EReal where
  count := xs.length
  sum := xs.sum
  mean := mean xs
  m2 := scatter xs
  min := xs.min?.map Real.toEReal
  max := xs.max?.map Real.toEReal

theorem summary_nil : summary [] = ∅ := by
  rw [summary, mean_nil, scatter_nil]
  rfl

/-- **One more observation changes the summary in two passes as it changes the one in one pass.** -/
theorem summary_append_singleton (xs : List ℝ) (x : ℝ) :
    summary (xs ++ [x]) = (summary xs).push x := by
  have hmean : (mean (xs ++ [x]) : EReal)
      = mean xs + ((x : EReal) - mean xs) / Scalar.toNatCast.natCast (xs.length + 1) := by
    rw [← EReal.coe_sub, div_natCast, ← EReal.coe_add, mean_append_singleton, Nat.cast_add_one]
  have hcoe : Monotone Real.toEReal := EReal.coe_strictMono.monotone
  rw [Sample.push, summary, summary, Sample.mk.injEq]
  dsimp only
  refine ⟨List.length_append, ?total, hmean, ?squares, ?least, ?greatest⟩
  case total => rw [List.sum_append, List.sum_singleton, EReal.coe_add]
  case squares =>
    rw [← hmean, ← EReal.coe_sub, ← EReal.coe_sub, ← EReal.coe_mul, ← EReal.coe_add,
      scatter_append_singleton]
  case least =>
    rw [min?_append_singleton]
    cases xs.min? with
    | none => rfl
    | some m => exact congrArg some (hcoe.map_min.trans (least_eq_min m x).symm)
  case greatest =>
    rw [max?_append_singleton]
    cases xs.max? with
    | none => rfl
    | some m => exact congrArg some (hcoe.map_max.trans (greatest_eq_max m x).symm)

/-- The summary tells which observations there are, but not in which order. -/
theorem summary_eq_of_perm {xs ys : List ℝ} (h : xs.Perm ys) : summary xs = summary ys := by
  have hmean : mean xs = mean ys := by rw [mean, mean, h.sum_eq, h.length_eq]
  have hscatter : scatter xs = scatter ys := by
    rw [scatter, scatter, hmean]
    exact (h.map _).sum_eq
  have hmin : xs.min? = ys.min? := by
    ext m
    simp only [List.min?_eq_some_iff, h.mem_iff]
  have hmax : xs.max? = ys.max? := by
    ext m
    simp only [List.max?_eq_some_iff, h.mem_iff]
  rw [summary, summary, h.length_eq, h.sum_eq, hmean, hscatter, hmin, hmax]

end Exact

namespace Sample

/-- The summary in one pass is the one in two passes. -/
theorem ofList_eq_summary (xs : List ℝ) : ofList (xs.map Real.toEReal) = Exact.summary xs := by
  induction xs using List.reverseRecOn with
  | nil => exact Exact.summary_nil.symm
  | append_singleton xs x ih =>
    rw [Exact.summary_append_singleton, ← ih, List.map_append, ofList, List.foldl_append]
    rfl

theorem variance_ofList (xs : List ℝ) :
    (ofList (xs.map Real.toEReal)).variance = ((Exact.scatter xs / xs.length : ℝ) : EReal) := by
  rw [ofList_eq_summary, variance, Exact.summary]
  dsimp only
  split_ifs with hlength
  · rw [hlength, Nat.cast_zero, div_zero]
    rfl
  · exact Exact.div_natCast _ _

/-- Of fewer than two observations the unbiased variance is zero, for there are no deviations. -/
theorem unbiasedVariance_ofList (xs : List ℝ) :
    (ofList (xs.map Real.toEReal)).unbiasedVariance = (Exact.variance xs : EReal) := by
  rw [ofList_eq_summary, unbiasedVariance, Exact.summary, Exact.variance]
  dsimp only
  split_ifs with hlength
  · match xs, hlength with
    | [], _ => simp
    | [x], _ => simp
  · rw [Exact.div_natCast, Nat.cast_sub (by omega), Nat.cast_one]

/-- **The summary in one pass agrees with the definitions of its entries.**  In exact arithmetic a sample
of any list of observations has their number, their sum, the mean, the squared deviations from that mean
and the extremes of the list, if there are any; its variances are these deviations divided by `n` and by
`n - 1`; and the same observations in any other order have the same summary. -/
theorem one_pass_eq_two_passes (xs : List ℝ) :
    ofList (xs.map Real.toEReal) =
        { count := xs.length
          sum := (xs.sum : ℝ)
          mean := (xs.sum / xs.length : ℝ)
          m2 := ((xs.map fun x => (x - xs.sum / xs.length) ^ 2).sum : ℝ)
          min := xs.min?.map Real.toEReal
          max := xs.max?.map Real.toEReal } ∧
      (ofList (xs.map Real.toEReal)).variance = ((Exact.scatter xs / xs.length : ℝ) : EReal) ∧
      (ofList (xs.map Real.toEReal)).unbiasedVariance
        = ((Exact.scatter xs / (xs.length - 1) : ℝ) : EReal) ∧
      ∀ ys : List ℝ, ys.Perm xs → ofList (ys.map Real.toEReal) = ofList (xs.map Real.toEReal) := by
  refine ⟨ofList_eq_summary xs, variance_ofList xs, unbiasedVariance_ofList xs, fun ys hperm => ?_⟩
  rw [ofList_eq_summary, ofList_eq_summary, Exact.summary_eq_of_perm hperm]

/-- Three observations with mean two, the deviations `0`, `1` and `-1`, and the same in another order. -/
theorem one_pass_eq_two_passes_three :
    (ofList ([2, 3, 1].map Real.toEReal)).mean = (2 : ℝ) ∧
      (ofList ([2, 3, 1].map Real.toEReal)).variance = (2 / 3 : ℝ) ∧
      (ofList ([2, 3, 1].map Real.toEReal)).unbiasedVariance = (1 : ℝ) ∧
      (ofList ([2, 3, 1].map Real.toEReal)).min = some ((1 : ℝ) : EReal) ∧
      ofList ([3, 2, 1].map Real.toEReal) = ofList ([2, 3, 1].map Real.toEReal) := by
  obtain ⟨hsummary, hvariance, hunbiased, hperm⟩ := one_pass_eq_two_passes [2, 3, 1]
  have hmean : ([2, 3, 1] : List ℝ).sum / ([2, 3, 1] : List ℝ).length = 2 := by norm_num
  have hscatter : Exact.scatter [2, 3, 1] = 2 := by
    rw [Exact.scatter, Exact.mean, hmean]
    norm_num
  have hmin : ([2, 3, 1] : List ℝ).min? = some 1 := by norm_num [List.min?_cons']
  refine ⟨?_, ?_, ?_, ?_, hperm [3, 2, 1] (.swap 2 3 [1])⟩
  · rw [hsummary, hmean]
  · rw [hvariance, hscatter]
    norm_num
  · rw [hunbiased, hscatter]
    norm_num
  · rw [hsummary, hmin]
    rfl

end Sample

/-! ### Boolean observations -/

namespace Exact

/-- Boolean observations as numbers, one for a positive one and zero for a negative one. -/
def indicators (bs : List Bool) : List ℝ := bs.map fun b => if b then 1 else 0

@[simp] theorem length_indicators (bs : List Bool) : (indicators bs).length = bs.length := by
  simp [indicators]

theorem sum_indicators (bs : List Bool) : (indicators bs).sum = bs.count true := by
  induction bs with
  | nil => simp [indicators]
  | cons b bs ih =>
    have hcons : (indicators (b :: bs)).sum = (if b then 1 else 0) + (indicators bs).sum := by
      simp [indicators]
    rw [hcons, ih]
    cases b <;> simp [add_comm]

theorem mean_indicators (bs : List Bool) :
    mean (indicators bs) = (bs.count true : ℝ) / bs.length := by
  rw [mean, sum_indicators, length_indicators]

theorem scatter_indicators (bs : List Bool) :
    scatter (indicators bs)
      = (bs.count true : ℝ) * (bs.length - bs.count true) / bs.length := by
  -- The indicators are their own squares.
  have hsquares : (indicators bs).map (· ^ 2) = indicators bs := by
    rw [indicators, List.map_map]
    exact List.map_congr_left fun b _ => by cases b <;> simp
  rw [scatter_eq, hsquares, sum_indicators, length_indicators]
  rcases eq_or_ne bs [] with rfl | hne
  · simp
  have hlength : (bs.length : ℝ) ≠ 0 := by simpa using hne
  field_simp

end Exact

namespace Sample

theorem ofBools_eq_ofList (bs : List Bool) :
    (ofBools bs : Sample EReal) = ofList ((Exact.indicators bs).map Real.toEReal) := by
  have hindicator (b : Bool) : (Scalar.ofBool b : EReal) = Real.toEReal (if b then 1 else 0) := by
    cases b <;> rfl
  have hpush : (pushBool : Sample EReal → Bool → Sample EReal)
      = fun s b => s.push (Real.toEReal (if b then 1 else 0)) :=
    funext fun s => funext fun b => congrArg s.push (hindicator b)
  rw [ofBools, ofList, Exact.indicators, List.foldl_map, List.foldl_map, hpush]

theorem mean_ofBools (bs : List Bool) :
    (ofBools bs : Sample EReal).mean = ((bs.count true / bs.length : ℝ) : EReal) := by
  rw [ofBools_eq_ofList, ofList_eq_summary, Exact.summary, Exact.mean_indicators]

theorem unbiasedVariance_ofBools (bs : List Bool) :
    (ofBools bs : Sample EReal).unbiasedVariance
      = (Exact.variance (Exact.indicators bs) : EReal) := by
  rw [ofBools_eq_ofList, unbiasedVariance_ofList]

end Sample

end SimCheck
