import SimCheck.Proofs.Test.Looser
import SimCheck.Proofs.Test.Trials

/-!
# What a plan promises

A plan accepts when more than its acceptance number of observations are positive.  Its acceptance
number is below the quantile of the first error at `theta0`, and it is the quantile of the second
error at `theta1`; from there the tail of the binomial distribution carries both errors to all
probabilities outside the region.

* `Plan.tail_theta0_lt`, `Plan.le_tail_theta1`: the errors at the ends of the region;
* `Plan.keeps_promise`: the errors of a plan on either side of the region.
-/

namespace SimCheck

namespace Exact

/-- More than so many positive observations are as likely as not to be at most so many. -/
theorem probability_lt_count (p : ℝ) (n k : ℕ) :
    probability p n (fun bs => k < bs.count true) = 1 - binomialTail k n p := by
  rw [← probability_count_le, ← probability_not]
  simp only [not_le]

end Exact

namespace Plan

variable [Distributions EReal] {r : Region EReal} {b : ErrorBounds EReal} {n c : ℕ}

/-- At `theta0` no more than the acceptance number of positive observations are rare enough. -/
theorem tail_theta0_lt (hexact : Distributions.HasBinomialTails) {q : ℝ} (hq : 0 < q) (hq' : q ≤ 1)
    (htheta0 : r.theta0 = q) (halpha : 0 < b.alpha) (hn : n < Nat.pow 2 63) (hc : c < n)
    (h : acceptance r b n = some (c : ℤ)) : (Exact.binomialTail c n q : EReal) < b.alpha := by
  have hbelow : (c : ℤ) ≤ Binomial.quantile b.alpha n q - 1 := htheta0 ▸ (acceptance_eq_some.1 h).1
  rcases hq'.lt_or_eq with hlt | rfl
  · obtain ⟨x, -, hquantile, -, hleast⟩ := Binomial.quantile_spec hexact hq hlt hn halpha
    rw [hquantile] at hbelow
    exact hleast c (by omega)
  · rw [Exact.binomialTail_one hc]
    exact halpha

/-- At `theta1` no more than the acceptance number of positive observations are frequent enough. -/
theorem le_tail_theta1 (hexact : Distributions.HasBinomialTails) {q : ℝ} (hq : 0 ≤ q) (hq' : q < 1)
    (htheta1 : r.theta1 = q) (hbeta : 0 < b.beta) (hbeta' : b.beta < 1) (hn : n < Nat.pow 2 63)
    (hc : c < n) (h : acceptance r b n = some (c : ℤ)) :
    1 - b.beta ≤ (Exact.binomialTail c n q : EReal) := by
  have hquantile : Binomial.quantile (1 - b.beta) n q = c := htheta1 ▸ (acceptance_eq_some.1 h).2
  rcases hq.eq_or_lt with rfl | hpos
  · rw [Exact.binomialTail_zero]
    exact EReal.sub_le_of_le_add (by simpa using add_le_add_right hbeta.le 1)
  · obtain ⟨x, -, hx, hpasses, -⟩ := Binomial.quantile_spec hexact hpos hq' hn (EReal.sub_pos.2 hbeta')
    obtain rfl : x = c := by
      rw [hx] at hquantile
      exact_mod_cast hquantile
    exact hpasses hc

/-- **Every plan keeps its promise.**  If an observation is positive with a probability of at least
`theta0`, then at most the acceptance number of them are positive with a probability of at most
`alpha`; if it is positive with a probability of at most `theta1`, then more of them are positive with
a probability of at most `beta`. -/
theorem keeps_promise (hexact : Distributions.HasBinomialTails) {plan : Plan}
    (h : create r b = .ok plan) :
    0 ≤ plan.c ∧ plan.c < plan.n ∧
      (∀ p : ℝ, r.theta0 ≤ p → p ≤ 1 →
        (Exact.probability p plan.n (fun bs => (bs.count true : ℤ) ≤ plan.c) : EReal) ≤ b.alpha) ∧
      ∀ p : ℝ, 0 ≤ p → p ≤ r.theta1 →
        (Exact.probability p plan.n (fun bs => plan.c < (bs.count true : ℤ)) : EReal) ≤ b.beta := by
  obtain ⟨hsize, hnonneg, hless⟩ := mem_of_create h
  obtain ⟨⟨hproper, hopen⟩, hi, hpower, rfl⟩ := create_eq_ok.1 h
  obtain ⟨i, hi, rfl, hworks, -⟩ := firstPower?_eq_some.1 hpower
  obtain ⟨-, -, hacceptance⟩ := smallest_spec (Nat.two_pow_pos i) hworks
  generalize smallest r b (2 ^ i) = plan at *
  obtain ⟨n, c⟩ := plan
  obtain ⟨c, rfl⟩ := Int.eq_ofNat_of_zero_le hnonneg
  have hc : c < n := Int.ofNat_lt.1 hless
  obtain ⟨q₀, q₁, htheta0, htheta1, hq₁, hq, hq₀'⟩ := exists_coe_of_isProper hproper
  have hq₀ : 0 < q₀ := hq₁.trans_lt hq
  simp only [Scalar.isOpenUnit, Bool.and_eq_true, decide_eq_true_eq] at hopen
  obtain ⟨⟨halpha, -⟩, hbeta, hbeta'⟩ := hopen
  simp only [Nat.cast_le, Nat.cast_lt, htheta0, htheta1, EReal.coe_le_coe_iff]
  refine ⟨hnonneg, hc, fun p hp hp' => ?_, fun p hp hp' => ?_⟩
  · rw [Exact.probability_count_le]
    have htail := Exact.binomialTail_anti_probability hq₀.le hp hp' c n
    exact (EReal.coe_le_coe_iff.2 htail).trans
      (tail_theta0_lt hexact hq₀ hq₀' htheta0 halpha hsize hc hacceptance).le
  · rw [Exact.probability_lt_count]
    have htail := Exact.binomialTail_anti_probability hp hp' (hq.le.trans hq₀') c n
    have hend :=
      le_tail_theta1 hexact hq₁ (hq.trans_le hq₀') htheta1 hbeta hbeta' hsize hc hacceptance
    have hle : 1 - b.beta ≤ (Exact.binomialTail c n p : EReal) :=
      hend.trans (EReal.coe_le_coe_iff.2 htail)
    rw [EReal.coe_sub, EReal.coe_one]
    exact EReal.sub_le_of_le_add'
      ((EReal.sub_le_iff_le_add (.inl hbeta.ne_bot) (.inl hbeta'.ne_top)).1 hle)

end Plan

/-- Two observations of which both must be positive tell certainty from an even chance. -/
theorem Turnabout.plan_keeps_promise :
    let _ := distributions
    Distributions.HasBinomialTails ∧ Plan.create region params.bounds = .ok ⟨2, 1⟩ ∧
      (∀ p : ℝ, 1 ≤ p → p ≤ 1 →
        (Exact.probability p 2 (fun bs => (bs.count true : ℤ) ≤ 1) : EReal) ≤ (0.25 : ℝ)) ∧
      ∀ p : ℝ, 0 ≤ p → p ≤ 0.5 →
        (Exact.probability p 2 (fun bs => 1 < (bs.count true : ℤ)) : EReal) ≤ (0.3 : ℝ) := by
  intro _
  have hexact := isExact_distributions
  obtain ⟨-, -, hfirst, hsecond⟩ := Plan.keeps_promise hexact.binomial (plan_params hexact)
  refine ⟨hexact.binomial, plan_params hexact, fun p hp hp' => ?_, fun p hp hp' => ?_⟩
  · exact hfirst p (EReal.coe_le_coe_iff.2 hp) hp'
  · exact hsecond p hp (EReal.coe_le_coe_iff.2 hp')

end SimCheck
