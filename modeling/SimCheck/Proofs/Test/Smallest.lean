import SimCheck.Proofs.Test.Promise

/-!
# How small a plan is

A plan tells the ends of a region apart if it keeps the errors that are allowed there.  Whether there
is an acceptance number with which it does is what the search for a plan asks of a size.  The answer is
saw-toothed: one more observation can need one more positive observation, and then keep the second error
only at the expense of the first.  A search that doubles and then bisects passes over such teeth.

* `Plan.separates_of_acceptance`, `Plan.works_of_separates`: the search asks for an acceptance number
  that keeps both errors;
* `Plan.create_locally_smallest`: the plan that is found keeps both errors, and neither one observation
  less nor a smaller power of two does;
* `Sawtooth.smaller_plan_passed_over`: three observations are enough, and five are planned.
-/

namespace SimCheck

namespace Plan

/-- A sample of size `n` with the acceptance number `c` keeps the errors at the ends of a region: at
`theta0` it is rejected, and at `theta1` accepted, rarely enough. -/
structure Separates (r : Region EReal) (b : ErrorBounds EReal) (n : ℕ) (c : ℤ) : Prop where
  alpha : (Exact.probability r.theta0.toReal n (fun bs => (bs.count true : ℤ) ≤ c) : EReal) < b.alpha
  beta : (Exact.probability r.theta1.toReal n (fun bs => c < (bs.count true : ℤ)) : EReal) ≤ b.beta

section

variable {r : Region EReal} {b : ErrorBounds EReal} {n : ℕ} {c : ℤ}

/-- No number of positive observations is below zero. -/
theorem Separates.nonneg (h : Separates r b n c) (hbeta : b.beta < 1) : 0 ≤ c := by
  by_contra! hneg
  have hsure : (fun bs : List Bool => c < (bs.count true : ℤ)) = fun _ => True := by
    funext bs
    exact eq_true (by omega)
  have hle := h.beta
  rw [hsure, Exact.probability_true] at hle
  exact hle.not_gt hbeta

/-- With an acceptance number that counts positive observations, the errors are tails. -/
theorem separates_natCast {q₀ q₁ : ℝ} (htheta0 : r.theta0 = q₀) (htheta1 : r.theta1 = q₁) {c : ℕ} :
    Separates r b n c ↔ (Exact.binomialTail c n q₀ : EReal) < b.alpha ∧
      ((1 - Exact.binomialTail c n q₁ : ℝ) : EReal) ≤ b.beta := by
  rw [← Exact.probability_count_le, ← Exact.probability_lt_count]
  constructor
  · intro h
    have halpha := h.alpha
    have hbeta := h.beta
    simp only [htheta0, htheta1, EReal.toReal_coe, Nat.cast_le, Nat.cast_lt] at halpha hbeta
    exact ⟨halpha, hbeta⟩
  · rintro ⟨halpha, hbeta⟩
    constructor
    · simpa only [htheta0, EReal.toReal_coe, Nat.cast_le] using halpha
    · simpa only [htheta1, EReal.toReal_coe, Nat.cast_lt] using hbeta

end

variable [Distributions EReal] {r : Region EReal} {b : ErrorBounds EReal} {n : ℕ} {plan : Plan}

/-- The acceptance number of a size keeps both errors. -/
theorem separates_of_acceptance (hexact : Distributions.HasBinomialTails) (hproper : r.isProper = true)
    (hopen : (Scalar.isOpenUnit b.alpha && Scalar.isOpenUnit b.beta) = true) (hn : n < Nat.pow 2 63)
    {c : ℤ} (h : acceptance r b n = some c) : Separates r b n c := by
  obtain ⟨q₀, q₁, htheta0, htheta1, hq₁, hlt, hq₀⟩ := exists_coe_of_isProper hproper
  simp only [Scalar.isOpenUnit, Bool.and_eq_true, decide_eq_true_eq] at hopen
  obtain ⟨⟨halpha, -⟩, hbeta, hbeta'⟩ := hopen
  obtain ⟨hle, heq⟩ := acceptance_eq_some.1 h
  have hfirst := (Binomial.quantile_mem (y := b.alpha) (p := r.theta0) hn).2
  have hsecond := (Binomial.quantile_mem (y := 1 - b.beta) (p := r.theta1) hn).1
  obtain ⟨c, rfl⟩ := Int.eq_ofNat_of_zero_le (heq ▸ hsecond)
  have hc : c < n := by omega
  refine (separates_natCast htheta0 htheta1).2 ⟨?_, ?_⟩
  · exact tail_theta0_lt hexact (hq₁.trans_lt hlt) hq₀ htheta0 halpha hn hc h
  · have hend := le_tail_theta1 hexact hq₁ (hlt.trans_le hq₀) htheta1 hbeta hbeta' hn hc h
    rw [EReal.coe_sub, EReal.coe_one]
    exact EReal.sub_le_of_le_add'
      ((EReal.sub_le_iff_le_add (.inl hbeta.ne_bot) (.inl hbeta'.ne_top)).1 hend)

/-- Of an acceptance number that keeps both errors, the quantiles lie on either side. -/
theorem works_of_separates (hexact : Distributions.HasBinomialTails) (hproper : r.isProper = true)
    (hopen : (Scalar.isOpenUnit b.alpha && Scalar.isOpenUnit b.beta) = true) (hn : n < Nat.pow 2 63)
    {c : ℤ} (h : Separates r b n c) : Works r b n := by
  obtain ⟨q₀, q₁, htheta0, htheta1, hq₁, hlt, hq₀⟩ := exists_coe_of_isProper hproper
  simp only [Scalar.isOpenUnit, Bool.and_eq_true, decide_eq_true_eq] at hopen
  obtain ⟨⟨halpha, halpha'⟩, hbeta, hbeta'⟩ := hopen
  obtain ⟨c, rfl⟩ := Int.eq_ofNat_of_zero_le (h.nonneg hbeta')
  obtain ⟨hfirst, hsecond⟩ := (separates_natCast htheta0 htheta1).1 h
  have hlower : Binomial.quantile (1 - b.beta) n r.theta1 ≤ c := by
    have hle : 1 - b.beta ≤ 1 := EReal.sub_le_of_le_add (le_add_of_nonneg_right hbeta.le)
    rw [htheta1, Binomial.quantile_le_iff hexact hq₁ (hlt.le.trans hq₀) hn hle]
    rw [EReal.coe_sub, EReal.coe_one] at hsecond
    refine EReal.sub_le_of_le_add' ?_
    exact (EReal.sub_le_iff_le_add (.inl (EReal.coe_ne_bot _)) (.inl (EReal.coe_ne_top _))).1 hsecond
  have hupper : (c : ℤ) < Binomial.quantile b.alpha n r.theta0 := by
    rw [htheta0, ← not_le, Binomial.quantile_le_iff hexact (hq₁.trans hlt.le) hq₀ hn halpha'.le]
    exact hfirst.not_ge
  exact Option.isSome_iff_exists.2 ⟨_, acceptance_eq_some.2 ⟨by omega, rfl⟩⟩

omit [Distributions EReal] in
theorem not_separates_zero (halpha : b.alpha < 1) (hbeta : b.beta < 1) (c : ℤ) :
    ¬Separates r b 0 c := by
  intro h
  have hfirst := h.alpha
  rw [Exact.probability_zero, if_pos (by simpa using h.nonneg hbeta)] at hfirst
  exact hfirst.not_gt halpha

/-- Of a search that has doubled up to a size, neither the size before the one it finds nor a power of
two below works. -/
theorem smallest_first {i : ℕ} (hfirst : ∀ j < i, ¬Works r b (2 ^ j))
    (hworks : Works r b (2 ^ i)) :
    (1 < (smallest r b (2 ^ i)).n → ¬Works r b ((smallest r b (2 ^ i)).n - 1)) ∧
      ∀ j, 2 ^ j < (smallest r b (2 ^ i)).n → ¬Works r b (2 ^ j) := by
  obtain ⟨hlower, hupper, -⟩ := smallest_spec (Nat.two_pow_pos i) hworks
  refine ⟨fun hone => ?_, fun j hj => hfirst j ?_⟩
  · rcases (Nat.succ_le_of_lt hlower).lt_or_eq with hlt | heq
    · exact fun hpasses => Bool.false_ne_true ((bisect_pred_fails hlt).symm.trans hpasses)
    · -- The bisection starts right after the last power of two that does not work.
      obtain _ | k := i
      · exact absurd hone (not_lt.2 hupper)
      · rw [← heq, Nat.succ_sub_one, Nat.pow_succ, Nat.mul_div_cancel _ two_pos]
        exact hfirst k (Nat.lt_succ_self k)
  · exact (Nat.pow_lt_pow_iff_right one_lt_two).1 (hj.trans_le hupper)

/-- **A plan that is found keeps both errors at the ends of the region, and no plan of one observation
less, or of any power of two below its size, does.** -/
theorem create_locally_smallest (hexact : Distributions.HasBinomialTails)
    (h : create r b = .ok plan) :
    Separates r b plan.n plan.c ∧ (∀ c, ¬Separates r b (plan.n - 1) c) ∧
      ∀ j, 2 ^ j < plan.n → ∀ c, ¬Separates r b (2 ^ j) c := by
  obtain ⟨⟨hproper, hopen⟩, hi, hpower, rfl⟩ := create_eq_ok.1 h
  obtain ⟨i, hi, rfl, hworks, hfirst⟩ := firstPower?_eq_some.1 hpower
  obtain ⟨-, hupper, hacceptance⟩ := smallest_spec (Nat.two_pow_pos i) hworks
  obtain ⟨hpred, hpowers⟩ := smallest_first hfirst hworks
  have hsize {k : ℕ} (hk : k ≤ (smallest r b (2 ^ i)).n) : k < Nat.pow 2 63 :=
    lt_of_le_of_two_pow hi (hk.trans hupper)
  refine ⟨separates_of_acceptance hexact hproper hopen (hsize le_rfl) hacceptance,
    fun c hc => ?_, fun j hj c hc => ?_⟩
  · rcases Nat.lt_or_ge 1 (smallest r b (2 ^ i)).n with hone | hone
    · exact hpred hone (works_of_separates hexact hproper hopen (hsize (Nat.sub_le _ 1)) hc)
    · rw [Nat.sub_eq_zero_of_le hone] at hc
      simp only [Scalar.isOpenUnit, Bool.and_eq_true, decide_eq_true_eq] at hopen
      exact not_separates_zero hopen.1.2 hopen.2.2 c hc
  · exact hpowers j hj (works_of_separates hexact hproper hopen (hsize hj.le) hc)

end Plan

/-! ### A tooth that is passed over -/

namespace Sawtooth

/-- Three quarters against one quarter. -/
noncomputable def region : Region EReal := ⟨(0.75 : ℝ), (0.25 : ℝ)⟩

noncomputable def bounds : ErrorBounds EReal := ⟨(0.2 : ℝ), (0.2 : ℝ)⟩

/-- Of `n` draws from `a` positive and `b` negative ones, each put back, the outcomes with at most `c`
positive ones. -/
def outcomes (a b c n : ℕ) : ℕ := ∑ i ∈ Finset.range (c + 1), n.choose i * a ^ i * b ^ (n - i)

/-- A tail is the share of its outcomes. -/
theorem binomialTail_mul {a b : ℕ} {p : ℝ} (hp : p * (a + b) = a) {c n : ℕ} (hc : c ≤ n) :
    Exact.binomialTail c n p * (a + b) ^ n = outcomes a b c n := by
  have hrest : (1 - p) * (a + b) = b := by linarith
  unfold Exact.binomialTail outcomes
  push_cast
  rw [Finset.sum_mul]
  refine Finset.sum_congr rfl fun i hi => ?_
  have hi : i ≤ n := (Nat.le_of_lt_succ (Finset.mem_range.1 hi)).trans hc
  have hpow : (a + b : ℝ) ^ n = (a + b) ^ i * (a + b) ^ (n - i) := by
    rw [← pow_add, Nat.add_sub_cancel' hi]
  calc Exact.binomialMass i n p * (a + b : ℝ) ^ n
      = n.choose i * (p * (a + b)) ^ i * ((1 - p) * (a + b)) ^ (n - i) := by
        rw [Exact.binomialMass, hpow, mul_pow, mul_pow]
        ring
    _ = n.choose i * a ^ i * b ^ (n - i) := by rw [hp, hrest]

theorem binomialTail_quarter {c n : ℕ} (hc : c ≤ n) :
    Exact.binomialTail c n 0.25 * 4 ^ n = outcomes 1 3 c n := by
  have hp : (0.25 : ℝ) * ((1 : ℕ) + (3 : ℕ)) = (1 : ℕ) := by norm_num
  rw [← binomialTail_mul hp hc]
  norm_num

theorem binomialTail_threeQuarters {c n : ℕ} (hc : c ≤ n) :
    Exact.binomialTail c n 0.75 * 4 ^ n = outcomes 3 1 c n := by
  have hp : (0.75 : ℝ) * ((3 : ℕ) + (1 : ℕ)) = (3 : ℕ) := by norm_num
  rw [← binomialTail_mul hp hc]
  norm_num

theorem isProper_region : region.isProper = true := by
  have hnonneg : (0 : EReal) ≤ ((0.25 : ℝ) : EReal) := EReal.coe_nonneg.2 (by norm_num)
  have hlt : ((0.25 : ℝ) : EReal) < ((0.75 : ℝ) : EReal) := EReal.coe_lt_coe_iff.2 (by norm_num)
  have hle : ((0.75 : ℝ) : EReal) ≤ 1 := by
    rw [← EReal.coe_one]
    exact EReal.coe_le_coe_iff.2 (by norm_num)
  simp only [Region.isProper, region, hnonneg, hlt, hle, decide_true, Bool.and_self]

/-- One positive observation out of three separates as well. -/
theorem separates_three : Plan.Separates region bounds 3 1 := by
  refine (Plan.separates_natCast (c := 1) rfl rfl).2 ⟨EReal.coe_lt_coe_iff.2 ?_, ?_⟩
  · norm_num [Exact.binomialTail, Exact.binomialMass, Finset.sum_range_succ, Nat.choose]
  · refine EReal.coe_le_coe_iff.2 ?_
    norm_num [Exact.binomialTail, Exact.binomialMass, Finset.sum_range_succ, Nat.choose]

section

variable [Distributions EReal] (hexact : Distributions.HasBinomialTails)
include hexact

/-- The acceptance number from the outcomes around both quantiles. -/
theorem acceptance_eq {n : ℕ} (c q : ℕ) (h : n < Nat.pow 2 63 ∧ c ≤ n ∧ q ≤ n ∧
      4 * 4 ^ n ≤ 5 * outcomes 1 3 c n ∧ (∀ j < c, 5 * outcomes 1 3 j n < 4 * 4 ^ n) ∧
      4 ^ n ≤ 5 * outcomes 3 1 q n ∧ ∀ j < q, 5 * outcomes 3 1 j n < 4 ^ n) :
    Plan.acceptance region bounds n = if c < q then some (c : ℤ) else none := by
  obtain ⟨hn, hc, hq, hlower, hlower', hupper, hupper'⟩ := h
  have hpos : (0 : ℝ) < 4 ^ n := by positivity
  have hfirst : Binomial.quantile ((0.2 : ℝ) : EReal) n ((0.75 : ℝ) : EReal) = q := by
    refine Binomial.quantile_eq hexact (by norm_num) (by norm_num) hn ?_ ?_
    · have hcast : (4 ^ n : ℝ) ≤ 5 * outcomes 3 1 q n := by exact_mod_cast hupper
      rw [← binomialTail_threeQuarters hq] at hcast
      exact le_of_mul_le_mul_right (by linarith) hpos
    · intro j hj
      have hcast : (5 * outcomes 3 1 j n : ℝ) < 4 ^ n := by exact_mod_cast hupper' j hj
      rw [← binomialTail_threeQuarters (hj.le.trans hq)] at hcast
      exact lt_of_mul_lt_mul_right (by linarith) hpos.le
  have hsecond : Binomial.quantile (1 - ((0.2 : ℝ) : EReal)) n ((0.25 : ℝ) : EReal) = c := by
    have hrest : (1 - ((0.2 : ℝ) : EReal)) = ((0.8 : ℝ) : EReal) := by
      rw [← EReal.coe_one, ← EReal.coe_sub]
      norm_num
    rw [hrest]
    refine Binomial.quantile_eq hexact (by norm_num) (by norm_num) hn ?_ ?_
    · have hcast : (4 * 4 ^ n : ℝ) ≤ 5 * outcomes 1 3 c n := by exact_mod_cast hlower
      rw [← binomialTail_quarter hc] at hcast
      exact le_of_mul_le_mul_right (by linarith) hpos
    · intro j hj
      have hcast : (5 * outcomes 1 3 j n : ℝ) < 4 * 4 ^ n := by exact_mod_cast hlower' j hj
      rw [← binomialTail_quarter (hj.le.trans hc)] at hcast
      exact lt_of_mul_lt_mul_right (by linarith) hpos.le
  have hle : (c : ℤ) ≤ q - 1 ↔ c < q := by omega
  simp only [Plan.acceptance, region, bounds, hfirst, hsecond, hle]

theorem acceptance_one : Plan.acceptance region bounds 1 = none :=
  acceptance_eq hexact 1 0 (by decide)

theorem acceptance_two : Plan.acceptance region bounds 2 = none :=
  acceptance_eq hexact 1 1 (by decide)

theorem acceptance_four : Plan.acceptance region bounds 4 = none :=
  acceptance_eq hexact 2 2 (by decide)

theorem acceptance_five : Plan.acceptance region bounds 5 = some 2 :=
  acceptance_eq hexact 2 3 (by decide)

theorem acceptance_six : Plan.acceptance region bounds 6 = some 2 :=
  acceptance_eq hexact 2 4 (by decide)

theorem acceptance_eight : Plan.acceptance region bounds 8 = some 3 :=
  acceptance_eq hexact 3 5 (by decide)

/-- Eight observations are the first power of two that works, and the bisection between five and eight
goes down to five. -/
theorem create_bounds : Plan.create region bounds = .ok ⟨5, 2⟩ := by
  have hopen : (Scalar.isOpenUnit bounds.alpha && Scalar.isOpenUnit bounds.beta) = true := by
    rw [bounds, Turnabout.isOpenUnit_coe (by norm_num) (by norm_num), Bool.and_self]
  have hpower : Plan.firstPower? region bounds = some 8 := by
    refine Plan.firstPower?_eq_some.2 ⟨3, by decide, rfl, ?_, fun j hj => ?_⟩
    · exact Option.isSome_iff_exists.2 ⟨3, acceptance_eight hexact⟩
    · obtain rfl | rfl | rfl : j = 0 ∨ j = 1 ∨ j = 2 := by omega
      all_goals
        simp [Plan.Works, acceptance_one hexact, acceptance_two hexact, acceptance_four hexact]
  have hbisect : bisect (fun n => (Plan.acceptance region bounds n).isSome) (8 / 2 + 1) 8 = 5 := by
    rw [bisect, if_pos (by decide)]
    simp only [Nat.reduceDiv, Nat.reduceAdd, Nat.reduceSub, acceptance_six hexact, Option.isSome_some,
      if_true]
    rw [bisect, if_pos (by decide)]
    simp only [Nat.reduceDiv, Nat.reduceAdd, Nat.reduceSub, acceptance_five hexact, Option.isSome_some,
      if_true]
    rw [bisect, if_neg (by decide)]
  refine Plan.create_eq_ok.2 ⟨⟨isProper_region, hopen⟩, 8, hpower, ?_⟩
  simp only [Plan.smallest, hbisect, acceptance_five hexact, Option.getD_some]

end

/-- **Five observations are planned although three are enough.** -/
theorem smaller_plan_passed_over :
    let _ := Turnabout.distributions
    Distributions.HasBinomialTails ∧ Plan.create region bounds = .ok ⟨5, 2⟩ ∧
      (1 ≤ 3 ∧ 3 < 5) ∧ Plan.Separates region bounds 3 1 := by
  intro _
  have hexact := Turnabout.isExact_distributions.binomial
  exact ⟨hexact, create_bounds hexact, by decide, separates_three⟩

/-- Four observations are not enough, nor are two of them or one. -/
theorem create_locally_smallest_region :
    let _ := Turnabout.distributions
    Distributions.HasBinomialTails ∧ Plan.create region bounds = .ok ⟨5, 2⟩ ∧
      Plan.Separates region bounds 5 2 ∧ (∀ c, ¬Plan.Separates region bounds 4 c) ∧
      ∀ j, 2 ^ j < 5 → ∀ c, ¬Plan.Separates region bounds (2 ^ j) c := by
  intro _
  have hexact := Turnabout.isExact_distributions.binomial
  exact ⟨hexact, create_bounds hexact,
    Plan.create_locally_smallest hexact (create_bounds hexact)⟩

end Sawtooth

end SimCheck
