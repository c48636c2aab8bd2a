import SimCheck.Proofs.Test.Looser
import SimCheck.Proofs.Test.Trials

/-!
# Quantiles of the number of successes

The distribution function has cases of its own below zero and from the number of trials on, and a
quantile has shortcuts where all mass is on one point and where nothing is asked for.  All of them
agree with one distribution, that of the number of positive ones among independent observations.

* `Binomial.cdf?_eq_probability`: the distribution function at any integer;
* `Binomial.isLeast_quantile`: a quantile is the least `x` with `P(X ≤ x) ≥ y`, and from zero on the
  distribution function is at least `y` exactly where it is asked for `x` or more.
-/

namespace SimCheck

namespace Binomial

variable {p : ℝ}

theorem isProbability_coe (hp : 0 ≤ p) (hp' : p ≤ 1) : isProbability (p : EReal) = true := by
  have hnonneg : (0 : EReal) ≤ p := EReal.coe_nonneg.2 hp
  have hle : (p : EReal) ≤ 1 := EReal.coe_le_coe_iff.2 hp'
  simp only [isProbability, hnonneg, hle, decide_true, Bool.and_self]

variable [Distributions EReal] {n : ℕ} {y : EReal}

/-- The distribution function at an integer is the probability of at most so many positive
observations, also below zero and beyond the number of trials. -/
theorem cdf?_eq_probability (hexact : Distributions.HasBinomialTails) (hp : 0 ≤ p) (hp' : p ≤ 1)
    (n : ℕ) (k : ℤ) : cdf? k n (p : EReal) =
      .ok (Exact.probability p n (fun bs => (bs.count true : ℤ) ≤ k) : EReal) := by
  rw [cdf?, if_pos (isProbability_coe hp hp')]
  cases k with
  | ofNat k =>
    simp only [Int.ofNat_eq_natCast, Nat.cast_le]
    rw [cdf_eq_binomialTail hexact hp hp', Exact.probability_count_le]
  | negSucc k =>
    have hnone (bs : List Bool) : ¬(bs.count true : ℤ) ≤ .negSucc k :=
      not_le.2 ((Int.negSucc_lt_zero k).trans_le (Nat.cast_nonneg _))
    simp only [hnone, Exact.probability_false, EReal.coe_zero]
    rw [cdf, if_pos (Int.negSucc_lt_zero k)]

/-- **A quantile is the least `x` with `P(X ≤ x) ≥ y`.**  From zero on, the distribution function is at
least `y` at this number and at the larger ones, and at no others. -/
theorem isLeast_quantile (hexact : Distributions.HasBinomialTails) (hn : n < Nat.pow 2 63)
    (hp : 0 ≤ p) (hp' : p ≤ 1) (hy : y ≤ 1) :
    ∃ x : ℕ, quantile? y n (p : EReal) = .ok (x : ℤ) ∧
      IsLeast {j : ℕ | j ≤ n ∧
        y ≤ (Exact.probability p n (fun bs => bs.count true ≤ j) : EReal)} x ∧
      ∀ k : ℤ, 0 ≤ k → ∃ t, cdf? k n (p : EReal) = .ok t ∧ (y ≤ t ↔ (x : ℤ) ≤ k) := by
  obtain ⟨hnonneg, hle⟩ := quantile_mem (y := y) (p := (p : EReal)) hn
  obtain ⟨x, hx⟩ := Int.eq_ofNat_of_zero_le hnonneg
  rw [hx, Nat.cast_le] at hle
  have hreached (k : ℕ) :
      y ≤ (Exact.probability p n (fun bs => bs.count true ≤ k) : EReal) ↔ x ≤ k := by
    rw [Exact.probability_count_le, ← quantile_le_iff hexact hp hp' hn hy, hx, Nat.cast_le]
  refine ⟨x, ?_, ⟨⟨hle, (hreached x).2 le_rfl⟩, fun j hj => (hreached j).1 hj.2⟩, fun k hk => ?_⟩
  · rw [quantile?, if_pos (isProbability_coe hp hp'), hx]
  · obtain ⟨k, rfl⟩ := Int.eq_ofNat_of_zero_le hk
    refine ⟨_, cdf?_eq_probability hexact hp hp' n k, ?_⟩
    simp only [Nat.cast_le]
    exact hreached k

end Binomial

/-- Out of three observations with even chances at most one is positive just half of the time, so that
their median is one. -/
theorem Turnabout.isLeast_quantile_median :
    let _ := distributions
    Distributions.HasBinomialTails ∧ 3 < Nat.pow 2 63 ∧ ((0 : ℝ) ≤ 0.5 ∧ (0.5 : ℝ) ≤ 1) ∧
      ((0.5 : ℝ) : EReal) ≤ 1 ∧
      Binomial.quantile? ((0.5 : ℝ) : EReal) 3 ((0.5 : ℝ) : EReal) = .ok 1 ∧
      IsLeast {j : ℕ | j ≤ 3 ∧ ((0.5 : ℝ) : EReal) ≤
        (Exact.probability 0.5 3 (fun bs => bs.count true ≤ j) : EReal)} 1 ∧
      ∀ k : ℤ, 0 ≤ k → ∃ t, Binomial.cdf? k 3 ((0.5 : ℝ) : EReal) = .ok t ∧
        (((0.5 : ℝ) : EReal) ≤ t ↔ 1 ≤ k) := by
  intro _
  have hexact := isExact_distributions.binomial
  have hsize : 3 < Nat.pow 2 63 := by decide
  have hunit : (0 : ℝ) ≤ 0.5 ∧ (0.5 : ℝ) ≤ 1 := by norm_num
  have hy : ((0.5 : ℝ) : EReal) ≤ 1 := EReal.coe_le_coe_iff.2 hunit.2
  obtain ⟨x, hquantile, hleast, hcdf⟩ :=
    Binomial.isLeast_quantile hexact hsize hunit.1 hunit.2 hy
  obtain rfl : x = 1 := by
    refine hleast.unique ⟨⟨by decide, EReal.coe_le_coe_iff.2 ?_⟩, fun j hj => ?_⟩
    · rw [Exact.probability_count_le]
      norm_num [Exact.binomialTail, Exact.binomialMass, Finset.sum_range_succ, Nat.choose]
    · obtain _ | j := j
      · have hreached := EReal.coe_le_coe_iff.1 hj.2
        rw [Exact.probability_count_le] at hreached
        norm_num [Exact.binomialTail, Exact.binomialMass] at hreached
      · exact Nat.succ_le_succ (Nat.zero_le j)
  exact ⟨hexact, hsize, hunit, hy, hquantile, hleast, hcdf⟩

end SimCheck
