import Mathlib.Algebra.Order.BigOperators.Group.Finset
import Mathlib.Data.Nat.Choose.Sum
import SimCheck.Distribution.Exact
import SimCheck.Binomial

/-!
# Binomial quantiles

Quantiles are found by bisection.  A bisection compares with another one whose test passes more
often, whatever the tests are; that it finds the least index takes a test that, once passed, is passed
from there on.

* `bisect_le_bisect`: the more often a test passes, the smaller the index;
* `Exact.binomialTail_succ_size`: a further trial makes few successes less likely;
* `Binomial.quantile_spec`: a quantile is the least number of successes that is reached often enough;
* `Binomial.quantile_le_iff`: it is at most the numbers of successes that are reached often enough, at
  the ends of the unit interval as well;
* `Binomial.quantile_mono`, `Binomial.quantile_mono_size`: it does not decrease with the probability
  or with the number of trials.
-/

namespace SimCheck

/-! ### Bisection -/

section Bisect

variable {test test' : ℕ → Bool} {lo hi : ℕ}

theorem bisect_mem (test : ℕ → Bool) (h : lo ≤ hi) :
    lo ≤ bisect test lo hi ∧ bisect test lo hi ≤ hi := by
  fun_induction bisect test lo hi with
  | case1 lo hi hlt mid hmid ih => have := ih (by omega); omega
  | case2 lo hi hlt mid hmid ih => have := ih (by omega); omega
  | case3 lo hi hlt => omega

/-- Below its upper end a bisection ends where the test passes. -/
theorem bisect_passes (hlt : bisect test lo hi < hi) : test (bisect test lo hi) = true := by
  fun_induction bisect test lo hi with
  | case1 lo hi hlo mid hmid ih =>
    rcases Nat.lt_or_ge (bisect test lo mid) mid with h | h
    · exact ih h
    · have hmem := bisect_mem test (show lo ≤ mid by omega)
      rwa [le_antisymm hmem.2 h]
  | case2 lo hi hlo mid hmid ih => exact ih hlt
  | case3 lo hi hlo => exact absurd hlt hlo

theorem bisect_le_bisect (h : ∀ x, lo ≤ x → x < hi → test x = true → test' x = true) :
    bisect test' lo hi ≤ bisect test lo hi := by
  fun_induction bisect test lo hi with
  | case1 lo hi hlt mid hmid ih =>
    rw [bisect, if_pos hlt, if_pos (h mid (by omega) (by omega) hmid)]
    exact ih fun x hlo hx => h x hlo (by omega)
  | case2 lo hi hlt mid hmid ih =>
    rw [bisect, if_pos hlt]
    show (if test' mid = true then bisect test' lo mid else bisect test' (mid + 1) hi) ≤ _
    split_ifs with hmid'
    · have hfirst := bisect_mem test' (show lo ≤ mid by omega)
      have hsecond := bisect_mem test (show mid + 1 ≤ hi by omega)
      omega
    · exact ih fun x hlo hx => h x (by omega) hx
  | case3 lo hi hlt => rw [bisect, if_neg hlt]

/-- Of a test that, once passed, is passed from there on, a bisection finds the least index. -/
theorem bisect_least (hmono : ∀ x y, x ≤ y → y < hi → test x = true → test y = true) {x : ℕ}
    (hlo : lo ≤ x) (hx : x < bisect test lo hi) : test x = false := by
  fun_induction bisect test lo hi with
  | case1 lo hi hlt mid hmid ih => exact ih (fun x y hxy hy => hmono x y hxy (by omega)) hlo hx
  | case2 lo hi hlt mid hmid ih =>
    rcases Nat.lt_or_ge mid x with h | h
    · exact ih hmono h hx
    · exact eq_false_of_ne_true fun hpass => hmid (hmono x mid h (by omega) hpass)
  | case3 lo hi hlt => omega

/-- Whatever the test is, it fails right before the index that a bisection finds. -/
theorem bisect_pred_fails (hlt : lo < bisect test lo hi) : test (bisect test lo hi - 1) = false := by
  fun_induction bisect test lo hi with
  | case1 lo hi hlo mid hmid ih => exact ih hlt
  | case2 lo hi hlo mid hmid ih =>
    rcases (bisect_mem test (show mid + 1 ≤ hi by omega)).1.eq_or_lt with heq | hless
    · rw [← heq, Nat.add_sub_cancel]
      exact eq_false_of_ne_true hmid
    · exact ih hless
  | case3 lo hi hlo => exact absurd hlt (lt_irrefl _)

end Bisect

/-! ### Exact binomial probabilities -/

namespace Exact

variable {p : ℝ}

theorem binomialMass_nonneg (hp : 0 ≤ p) (hp' : p ≤ 1) (i n : ℕ) : 0 ≤ binomialMass i n p := by
  unfold binomialMass
  have := sub_nonneg.2 hp'
  positivity

/-- The last trial fails or succeeds. -/
theorem binomialMass_succ (i n : ℕ) (p : ℝ) :
    binomialMass (i + 1) (n + 1) p = p * binomialMass i n p + (1 - p) * binomialMass (i + 1) n p := by
  unfold binomialMass
  rw [Nat.choose_succ_succ, Nat.cast_add, Nat.add_sub_add_right, pow_succ]
  rcases Nat.lt_or_ge i n with h | h
  · have hexp : n - i = n - (i + 1) + 1 := by omega
    rw [hexp, pow_succ]
    ring
  · rw [Nat.choose_eq_zero_of_lt (Nat.lt_succ_of_le h), Nat.cast_zero]
    ring

theorem binomialTail_succ (k n : ℕ) (p : ℝ) :
    binomialTail (k + 1) n p = binomialTail k n p + binomialMass (k + 1) n p :=
  Finset.sum_range_succ ..

theorem binomialTail_mono (hp : 0 ≤ p) (hp' : p ≤ 1) {k l : ℕ} (h : k ≤ l) (n : ℕ) :
    binomialTail k n p ≤ binomialTail l n p :=
  Finset.sum_le_sum_of_subset_of_nonneg (Finset.range_mono (Nat.succ_le_succ h))
    fun i _ _ => binomialMass_nonneg hp hp' i n

theorem binomialTail_succ_size (k n : ℕ) (p : ℝ) :
    binomialTail k (n + 1) p = binomialTail k n p - p * binomialMass k n p := by
  induction k with
  | zero => simp [binomialTail, binomialMass]; ring
  | succ k ih => rw [binomialTail_succ, binomialTail_succ, ih, binomialMass_succ]; ring

/-- A further trial does not make few successes more likely. -/
theorem binomialTail_anti (hp : 0 ≤ p) (hp' : p ≤ 1) (k : ℕ) {n m : ℕ} (h : n ≤ m) :
    binomialTail k m p ≤ binomialTail k n p := by
  induction m, h using Nat.le_induction with
  | base => exact le_rfl
  | succ m _ ih =>
    rw [binomialTail_succ_size]
    exact (sub_le_self _ (mul_nonneg hp (binomialMass_nonneg hp hp' k m))).trans ih

theorem binomialTail_of_le {k n : ℕ} (h : n ≤ k) (p : ℝ) : binomialTail k n p = 1 := by
  induction k, h using Nat.le_induction with
  | base =>
    have hsum := add_pow p (1 - p) n
    rw [add_sub_cancel, one_pow] at hsum
    rw [hsum]
    exact Finset.sum_congr rfl fun i _ => by unfold binomialMass; ring
  | succ k hk ih =>
    rw [binomialTail_succ, ih, binomialMass, Nat.choose_eq_zero_of_lt (by omega)]
    ring

theorem binomialTail_nonneg (hp : 0 ≤ p) (hp' : p ≤ 1) (k n : ℕ) : 0 ≤ binomialTail k n p :=
  Finset.sum_nonneg fun i _ => binomialMass_nonneg hp hp' i n

theorem binomialTail_le_one (hp : 0 ≤ p) (hp' : p ≤ 1) (k n : ℕ) : binomialTail k n p ≤ 1 :=
  (binomialTail_mono hp hp' (le_max_left k n) n).trans_eq (binomialTail_of_le (le_max_right k n) p)

/-- With a sure success there are no fewer successes than trials. -/
theorem binomialTail_one {k n : ℕ} (h : k < n) : binomialTail k n 1 = 0 := by
  refine Finset.sum_eq_zero fun i hi => ?_
  have hlt : i < n := (Finset.mem_range_succ_iff.1 hi).trans_lt h
  rw [binomialMass, sub_self, zero_pow (Nat.sub_ne_zero_of_lt hlt), mul_zero]

/-- With a sure failure there are no successes. -/
theorem binomialTail_zero (k n : ℕ) : binomialTail k n 0 = 1 := by
  have hfirst : binomialMass 0 n 0 = 1 := by simp [binomialMass]
  rw [binomialTail, Finset.sum_eq_single_of_mem 0 (by simp) fun i _ hi => ?_, hfirst]
  simp [binomialMass, hi]

end Exact

/-! ### Quantiles -/

namespace Binomial

variable [Distributions EReal] {y y' p : EReal} {n m : ℕ}

/-- A quantile that is not at an end of the unit interval is found by bisection. -/
theorem quantile_eq_bisect (hn : n < Nat.pow 2 63) (hp : p ≠ 0) (hp' : p ≠ 1) (hy : 0 < y) :
    quantile y n p = bisect (fun x => decide (y ≤ cdf (signed x) n p)) 0 n := by
  have hzero : ¬(p == 0 || decide (y ≤ 0)) = true := by
    rw [Exact.beq_eq_decide]
    simp [hp, hy.not_ge]
  have hone : ¬(p == 1) = true := by
    rw [Exact.beq_eq_decide]
    simp [hp']
  rw [quantile, if_neg hzero, if_neg hone]
  exact signed_of_lt ((bisect_mem _ (Nat.zero_le n)).2.trans_lt hn)

theorem quantile_zero (y : EReal) (n : ℕ) : quantile y n 0 = 0 := by
  rw [quantile, if_pos]
  rw [Exact.beq_eq_decide]
  simp

theorem quantile_of_nonpos (hy : y ≤ 0) (n : ℕ) (p : EReal) : quantile y n p = 0 := by
  rw [quantile, if_pos]
  simp [hy]

theorem quantile_one (hn : n < Nat.pow 2 63) (hy : 0 < y) : quantile y n 1 = n := by
  have hzero : ¬((1 : EReal) == 0 || decide (y ≤ 0)) = true := by
    rw [Exact.beq_eq_decide]
    simp [hy.not_ge]
  rw [quantile, if_neg hzero, if_pos, signed_of_lt hn]
  rw [Exact.beq_eq_decide]
  simp

theorem quantile_mem (hn : n < Nat.pow 2 63) : 0 ≤ quantile y n p ∧ quantile y n p ≤ n := by
  unfold quantile
  split_ifs
  · omega
  · rw [signed_of_lt hn]
    omega
  · have hmem := (bisect_mem (fun x => decide (y ≤ cdf (signed x) n p)) (Nat.zero_le n)).2
    rw [signed_of_lt (hmem.trans_lt hn)]
    omega

/-- A quantile does not decrease with the probability. -/
theorem quantile_mono (hn : n < Nat.pow 2 63) (hy : 0 < y) (h : y ≤ y') :
    quantile y n p ≤ quantile y' n p := by
  by_cases hp : p = 0
  · rw [hp, quantile_zero, quantile_zero]
  by_cases hp' : p = 1
  · rw [hp', quantile_one hn hy, quantile_one hn (hy.trans_le h)]
  rw [quantile_eq_bisect hn hp hp' hy, quantile_eq_bisect hn hp hp' (hy.trans_le h), Nat.cast_le]
  refine bisect_le_bisect fun x _ _ hx => ?_
  exact decide_eq_true (h.trans (of_decide_eq_true hx))

theorem cdf_eq_binomialTail (hexact : Distributions.HasBinomialTails) {q : ℝ} (hq : 0 ≤ q)
    (hq' : q ≤ 1) (k n : ℕ) : cdf (k : ℤ) n (q : EReal) = (Exact.binomialTail k n q : EReal) := by
  rw [cdf, if_neg (by omega), Int.toNat_natCast]
  split_ifs with h
  · rw [Exact.binomialTail_of_le h]
    rfl
  · exact hexact k n q hq hq'

/-- Strictly between zero and one a quantile is the least number of successes that is reached often
enough. -/
theorem quantile_spec (hexact : Distributions.HasBinomialTails) {q : ℝ} (hq : 0 < q) (hq' : q < 1)
    (hn : n < Nat.pow 2 63) (hy : 0 < y) :
    ∃ x ≤ n, quantile y n (q : EReal) = x ∧ (x < n → y ≤ (Exact.binomialTail x n q : EReal)) ∧
      ∀ j < x, (Exact.binomialTail j n q : EReal) < y := by
  have hpasses {x : ℕ} (hx : x ≤ n) : decide (y ≤ cdf (signed x) n (q : EReal)) = true ↔
      y ≤ (Exact.binomialTail x n q : EReal) := by
    rw [decide_eq_true_iff, signed_of_lt (hx.trans_lt hn), cdf_eq_binomialTail hexact hq.le hq'.le]
  have hmem := (bisect_mem (fun x => decide (y ≤ cdf (signed x) n (q : EReal)))
    (Nat.zero_le n)).2
  refine ⟨_, hmem, ?_, fun hlt => (hpasses hmem).1 (bisect_passes hlt), fun j hj => ?_⟩
  · rw [quantile_eq_bisect hn (EReal.coe_ne_zero.2 hq.ne') (EReal.coe_ne_one.2 hq'.ne) hy]
  · have hmono (x z : ℕ) (hxz : x ≤ z) (hz : z < n)
        (hx : decide (y ≤ cdf (signed x) n (q : EReal)) = true) :
        decide (y ≤ cdf (signed z) n (q : EReal)) = true :=
      (hpasses hz.le).2 (((hpasses (hxz.trans hz.le)).1 hx).trans
        (EReal.coe_le_coe_iff.2 (Exact.binomialTail_mono hq.le hq'.le hxz n)))
    have hfails := bisect_least hmono (Nat.zero_le j) hj
    exact not_le.1 fun hle => by simp [(hpasses (hj.le.trans hmem)).2 hle] at hfails

/-- A quantile is at most the numbers of successes that are reached often enough, and no others. -/
theorem quantile_le_iff (hexact : Distributions.HasBinomialTails) {q : ℝ} (hq : 0 ≤ q) (hq' : q ≤ 1)
    (hn : n < Nat.pow 2 63) (hy : y ≤ 1) {k : ℕ} :
    quantile y n (q : EReal) ≤ k ↔ y ≤ (Exact.binomialTail k n q : EReal) := by
  rcases le_or_gt y 0 with hnonpos | hpos
  · rw [quantile_of_nonpos hnonpos]
    have hnonneg := EReal.coe_nonneg.2 (Exact.binomialTail_nonneg hq hq' k n)
    exact iff_of_true (Nat.cast_nonneg k) (hnonpos.trans hnonneg)
  rcases hq.eq_or_lt with rfl | hq
  · rw [EReal.coe_zero, quantile_zero, Exact.binomialTail_zero]
    exact iff_of_true (Nat.cast_nonneg k) hy
  rcases hq'.eq_or_lt with rfl | hq'
  · rw [EReal.coe_one, quantile_one hn hpos, Nat.cast_le]
    rcases Nat.lt_or_ge k n with hlt | hle
    · rw [Exact.binomialTail_one hlt]
      exact iff_of_false hlt.not_ge hpos.not_ge
    · rw [Exact.binomialTail_of_le hle]
      exact iff_of_true hle hy
  -- Inside the unit interval the bisection has found the least such number.
  obtain ⟨x, hx, heq, hpasses, hleast⟩ := quantile_spec hexact hq hq' hn hpos
  rw [heq, Nat.cast_le]
  constructor
  · intro hle
    rcases hx.lt_or_eq with hlt | rfl
    · have hmono := Exact.binomialTail_mono hq.le hq'.le hle n
      exact (hpasses hlt).trans (EReal.coe_le_coe_iff.2 hmono)
    · rw [Exact.binomialTail_of_le hle]
      exact hy
  · exact fun hle => not_lt.1 fun hlt => (hleast k hlt).not_ge hle

theorem quantile_eq (hexact : Distributions.HasBinomialTails) {q y : ℝ} (hq : 0 ≤ q) (hq' : q ≤ 1)
    (hn : n < Nat.pow 2 63) {k : ℕ} (hle : y ≤ Exact.binomialTail k n q)
    (hlt : ∀ j < k, Exact.binomialTail j n q < y) : quantile (y : EReal) n (q : EReal) = k := by
  have hy : (y : EReal) ≤ 1 :=
    EReal.coe_le_coe_iff.2 (hle.trans (Exact.binomialTail_le_one hq hq' k n))
  obtain ⟨x, hx⟩ := Int.eq_ofNat_of_zero_le (quantile_mem (y := y) (p := q) hn).1
  have hiff {j : ℕ} : x ≤ j ↔ y ≤ Exact.binomialTail j n q := by
    rw [← EReal.coe_le_coe_iff, ← quantile_le_iff hexact hq hq' hn hy, hx, Nat.cast_le]
  rw [hx, Nat.cast_inj]
  refine le_antisymm (hiff.2 hle) (not_lt.1 fun hless => ?_)
  exact (hlt x hless).not_ge (hiff.1 le_rfl)

/-- A quantile does not decrease with the number of trials. -/
theorem quantile_mono_size (hexact : Distributions.HasBinomialTails) {q : ℝ} (hq : 0 ≤ q)
    (hq' : q ≤ 1) (hm : m < Nat.pow 2 63) (hy : y ≤ 1) (h : n ≤ m) :
    quantile y n (q : EReal) ≤ quantile y m (q : EReal) := by
  obtain ⟨x, hx⟩ := Int.eq_ofNat_of_zero_le (quantile_mem (y := y) (p := q) hm).1
  have hreached := (quantile_le_iff hexact hq hq' hm hy).1 hx.le
  -- What is reached often enough in more trials is reached often enough in fewer of them.
  rw [hx, quantile_le_iff hexact hq hq' (h.trans_lt hm) hy]
  exact hreached.trans (EReal.coe_le_coe_iff.2 (Exact.binomialTail_anti hq hq' x h))

end Binomial

end SimCheck
