import Mathlib.Data.Bool.Count
import SimCheck.Proofs.Test.Looser
import SimCheck.Proofs.Test.Trials

/-!
# Likelihoods of the ratio test

The statistic of a ratio test is the logarithm of a quotient: of the probability that its sequence of
observations has at one end of the region, by that at the other.  So a verdict compares the two.

* `RatioLimits.Admissible`: the ends of a region and error bounds for which there is a test;
* `RatioLimits.Admissible.statistic_eq_log`, `statistic_eq_bot`, `statistic_eq_top`: the statistic of a
  sequence that is possible at both ends, and of one that is impossible at an end;
* `RatioLimits.Admissible.mass_le_of_rejects`, `mass_le_of_accepts`: what a verdict says about the
  probabilities of the sequence on which it is reached;
* `RatioLimits.Admissible.statistic_anti`, `isLower_judge`, `isUpper_judge`: more positive observations
  make the statistic smaller, and so they speak against a rejection and for an acceptance.
-/

namespace SimCheck

theorem Exact.ln_coe {x : ℝ} (hx : 0 < x) : Scalar.ln (x : EReal) = (Real.log x : EReal) := by
  show ENNReal.log (x : EReal).toENNReal = _
  rw [EReal.toENNReal_of_ne_top (EReal.coe_ne_top x), EReal.toReal_coe, ENNReal.log_ofReal_of_pos hx]

/-! ### The statistic -/

namespace RatioLimits

/-- How much more likely at `theta0` than at `theta1` a sequence is at most that is rejected. -/
noncomputable def rejectOdds (theta1 alpha beta : ℝ) : ℝ :=
  if 0 < theta1 then alpha / (1 - beta) else alpha

/-- How much more likely at `theta1` than at `theta0` a sequence is at most that is accepted. -/
noncomputable def acceptOdds (theta0 alpha beta : ℝ) : ℝ :=
  if theta0 < 1 then beta / (1 - alpha) else beta

/-- A kind of observation that does not occur adds nothing. -/
theorem ite_pos_mul (k : ℕ) (x y : EReal) :
    (if 0 < (k : EReal) then y + k * x else y) = y + k * x := by
  rcases Nat.eq_zero_or_pos k with rfl | hk
  · simp
  · rw [if_pos]
    exact_mod_cast hk

/-- The statistic adds up a term for each kind of observation. -/
theorem statistic_ofBools (l : RatioLimits EReal) (bs : List Bool) :
    l.statistic (Sample.ofBools bs)
      = (bs.count true : EReal) * l.positive + (bs.count false : EReal) * l.negative := by
  have hnegatives : (bs.length : EReal) - (bs.count true : EReal) = (bs.count false : EReal) := by
    have hlength : (bs.length : ℝ) = bs.count true + bs.count false := by
      exact_mod_cast (List.count_true_add_count_false bs).symm
    show ((bs.length : ℝ) : EReal) - ((bs.count true : ℝ) : EReal) = ((bs.count false : ℝ) : EReal)
    rw [← EReal.coe_sub, hlength, add_sub_cancel_left]
  have hstatistic : l.statistic (Sample.ofBools bs)
      = if 0 < (bs.length : EReal) - (bs.count true : EReal) then
          (if 0 < (bs.count true : EReal) then 0 + (bs.count true : EReal) * l.positive else 0)
            + ((bs.length : EReal) - (bs.count true : EReal)) * l.negative
        else if 0 < (bs.count true : EReal) then 0 + (bs.count true : EReal) * l.positive else 0 := by
    rw [statistic, Sample.sum_ofBools, Sample.count_ofBools]
  rw [hstatistic, hnegatives, ite_pos_mul, ite_pos_mul, zero_add]

theorem judge_eq_true_iff {l : RatioLimits EReal} {x : EReal} :
    l.judge x = some true ↔ x ≤ l.accept := by
  unfold judge
  split_ifs <;> simp [*]

theorem judge_eq_false_iff {l : RatioLimits EReal} {x : EReal} :
    l.judge x = some false ↔ l.accept < x ∧ l.reject < x := by
  unfold judge
  split_ifs with haccept hreject
  · simp [haccept.not_gt]
  · simp [hreject, not_le.1 haccept]
  · simp [hreject]

/-! ### Limits of real numbers -/

/-- Real numbers that a ratio test can be created for. -/
structure Admissible (theta0 theta1 alpha beta : ℝ) : Prop where
  theta1_nonneg : 0 ≤ theta1
  theta1_lt : theta1 < theta0
  theta0_le : theta0 ≤ 1
  alpha_pos : 0 < alpha
  alpha_lt : alpha < 1
  beta_pos : 0 < beta
  beta_lt : beta < 1

/-- The limits for them. -/
noncomputable def ofReals (theta0 theta1 alpha beta : ℝ) : RatioLimits EReal :=
  create ⟨theta0, theta1⟩ ⟨alpha, beta⟩

variable {theta0 theta1 alpha beta : ℝ} {bs : List Bool}

namespace Admissible

variable (h : Admissible theta0 theta1 alpha beta)
include h

theorem theta0_pos : 0 < theta0 := h.theta1_nonneg.trans_lt h.theta1_lt

theorem theta1_lt_one : theta1 < 1 := h.theta1_lt.trans_le h.theta0_le

theorem one_sub_alpha_pos : 0 < 1 - alpha := sub_pos.2 h.alpha_lt

theorem one_sub_beta_pos : 0 < 1 - beta := sub_pos.2 h.beta_lt

theorem rejectOdds_pos : 0 < rejectOdds theta1 alpha beta := by
  unfold rejectOdds
  split_ifs
  · exact div_pos h.alpha_pos h.one_sub_beta_pos
  · exact h.alpha_pos

theorem acceptOdds_pos : 0 < acceptOdds theta0 alpha beta := by
  unfold acceptOdds
  split_ifs
  · exact div_pos h.beta_pos h.one_sub_alpha_pos
  · exact h.beta_pos

theorem rejectOdds_le : rejectOdds theta1 alpha beta ≤ alpha / (1 - beta) := by
  unfold rejectOdds
  split_ifs
  · exact le_rfl
  · exact le_div_self h.alpha_pos.le h.one_sub_beta_pos (sub_le_self _ h.beta_pos.le)

theorem acceptOdds_le : acceptOdds theta0 alpha beta ≤ beta / (1 - alpha) := by
  unfold acceptOdds
  split_ifs
  · exact le_rfl
  · exact le_div_self h.beta_pos.le h.one_sub_alpha_pos (sub_le_self _ h.alpha_pos.le)

theorem reject_eq : (ofReals theta0 theta1 alpha beta).reject
    = (-Real.log (rejectOdds theta1 alpha beta) : ℝ) := by
  have hln : Scalar.ln (1 - (beta : EReal)) = (Real.log (1 - beta) : EReal) := by
    rw [← EReal.coe_one, ← EReal.coe_sub, Exact.ln_coe h.one_sub_beta_pos]
  simp only [ofReals, create, rejectOdds, EReal.coe_pos, hln, Exact.ln_coe h.alpha_pos]
  split_ifs
  · rw [Real.log_div h.alpha_pos.ne' h.one_sub_beta_pos.ne', neg_sub, EReal.coe_sub, sub_eq_add_neg,
      add_comm]
    rfl
  · rfl

theorem accept_eq : (ofReals theta0 theta1 alpha beta).accept
    = (Real.log (acceptOdds theta0 alpha beta) : ℝ) := by
  have hln : Scalar.ln (1 - (alpha : EReal)) = (Real.log (1 - alpha) : EReal) := by
    rw [← EReal.coe_one, ← EReal.coe_sub, Exact.ln_coe h.one_sub_alpha_pos]
  have hlt : (theta0 : EReal) < 1 ↔ theta0 < 1 := EReal.coe_lt_coe_iff
  simp only [ofReals, create, acceptOdds, hlt, hln, Exact.ln_coe h.beta_pos]
  split_ifs
  · rw [Real.log_div h.beta_pos.ne' h.one_sub_alpha_pos.ne', EReal.coe_sub]
  · rfl

theorem positive_eq : (ofReals theta0 theta1 alpha beta).positive
    = if 0 < theta1 then ((Real.log (theta1 / theta0) : ℝ) : EReal) else ⊥ := by
  simp only [ofReals, create, EReal.coe_pos]
  split_ifs with hpos
  · rw [← EReal.coe_div, Exact.ln_coe (div_pos hpos h.theta0_pos)]
  · rfl

theorem negative_eq : (ofReals theta0 theta1 alpha beta).negative
    = if theta0 < 1 then ((Real.log ((1 - theta1) / (1 - theta0)) : ℝ) : EReal) else ⊤ := by
  have hlt : (theta0 : EReal) < 1 ↔ theta0 < 1 := EReal.coe_lt_coe_iff
  simp only [ofReals, create, hlt]
  split_ifs with hless
  · rw [← EReal.coe_one, ← EReal.coe_sub, ← EReal.coe_sub, ← EReal.coe_div,
      Exact.ln_coe (div_pos (sub_pos.2 h.theta1_lt_one) (sub_pos.2 hless))]
  · rfl

/-! ### What a verdict says about its sequence -/

omit h in
/-- A term of the statistic is a real number if its kind of observation does not occur, or is possible
at both ends of the region. -/
theorem natCast_mul_ite {k : ℕ} {c : Prop} [Decidable c] {x : ℝ} {y : EReal} (h : k = 0 ∨ c) :
    (k : EReal) * (if c then (x : EReal) else y) = (k * x : ℝ) := by
  rcases h with rfl | h
  · simp
  · rw [if_pos h, EReal.coe_mul, EReal.coe_natCast]

theorem mass_theta0_pos (hnegative : bs.count false = 0 ∨ theta0 < 1) :
    0 < Exact.mass theta0 bs := by
  rw [Exact.mass_eq_pow]
  refine mul_pos (pow_pos h.theta0_pos _) ?_
  rcases hnegative with hnone | hless
  · simp [hnone]
  · exact pow_pos (sub_pos.2 hless) _

theorem mass_theta1_pos (hpositive : bs.count true = 0 ∨ 0 < theta1) :
    0 < Exact.mass theta1 bs := by
  rw [Exact.mass_eq_pow]
  refine mul_pos ?_ (pow_pos (sub_pos.2 h.theta1_lt_one) _)
  rcases hpositive with hnone | hpos
  · simp [hnone]
  · exact pow_pos hpos _

theorem mass_theta0_eq_zero (hnegative : ¬(bs.count false = 0 ∨ theta0 < 1)) :
    Exact.mass theta0 bs = 0 := by
  rw [not_or, not_lt] at hnegative
  rw [Exact.mass_eq_pow, le_antisymm h.theta0_le hnegative.2, sub_self, zero_pow hnegative.1, mul_zero]

theorem mass_theta1_eq_zero (hpositive : ¬(bs.count true = 0 ∨ 0 < theta1)) :
    Exact.mass theta1 bs = 0 := by
  rw [not_or, not_lt] at hpositive
  rw [Exact.mass_eq_pow, le_antisymm hpositive.2 h.theta1_nonneg, zero_pow hpositive.1, zero_mul]

/-- Of a sequence that is possible at both ends of the region the statistic is the logarithm of the
ratio of its probabilities. -/
theorem statistic_eq_log (hpositive : bs.count true = 0 ∨ 0 < theta1)
    (hnegative : bs.count false = 0 ∨ theta0 < 1) :
    (ofReals theta0 theta1 alpha beta).statistic (Sample.ofBools bs)
      = (Real.log (Exact.mass theta1 bs / Exact.mass theta0 bs) : ℝ) := by
  have hodds : (theta1 / theta0) ^ bs.count true ≠ 0 := by
    rcases hpositive with hnone | hpos
    · simp [hnone]
    · exact pow_ne_zero _ (div_pos hpos h.theta0_pos).ne'
  have hodds' : ((1 - theta1) / (1 - theta0)) ^ bs.count false ≠ 0 := by
    rcases hnegative with hnone | hless
    · simp [hnone]
    · exact pow_ne_zero _ (div_pos (sub_pos.2 h.theta1_lt_one) (sub_pos.2 hless)).ne'
  rw [statistic_ofBools, h.positive_eq, h.negative_eq, natCast_mul_ite hpositive,
    natCast_mul_ite hnegative, ← EReal.coe_add, Exact.mass_eq_pow, Exact.mass_eq_pow,
    mul_div_mul_comm, ← div_pow, ← div_pow, Real.log_mul hodds hodds', Real.log_pow, Real.log_pow]

/-- A positive observation that is impossible at `theta1` settles the statistic. -/
theorem statistic_eq_bot (hpositive : ¬(bs.count true = 0 ∨ 0 < theta1)) :
    (ofReals theta0 theta1 alpha beta).statistic (Sample.ofBools bs) = ⊥ := by
  rw [not_or, ← ne_eq, ← Nat.pos_iff_ne_zero] at hpositive
  rw [statistic_ofBools, h.positive_eq, if_neg hpositive.2,
    EReal.mul_bot_of_pos (by exact_mod_cast hpositive.1), EReal.bot_add]

/-- A negative observation that is impossible at `theta0` settles the statistic, unless a positive one
has done so. -/
theorem statistic_eq_top (hpositive : bs.count true = 0 ∨ 0 < theta1)
    (hnegative : ¬(bs.count false = 0 ∨ theta0 < 1)) :
    (ofReals theta0 theta1 alpha beta).statistic (Sample.ofBools bs) = ⊤ := by
  rw [not_or, ← ne_eq, ← Nat.pos_iff_ne_zero] at hnegative
  rw [statistic_ofBools, h.positive_eq, natCast_mul_ite hpositive, h.negative_eq,
    if_neg hnegative.2, EReal.mul_top_of_pos (by exact_mod_cast hnegative.1),
    EReal.add_top_of_ne_bot (EReal.coe_ne_bot _)]

/-- A sequence that is rejected is not much more likely at `theta0` than at `theta1`. -/
theorem mass_le_of_rejects
    (hrejects : (ofReals theta0 theta1 alpha beta).judge
      ((ofReals theta0 theta1 alpha beta).statistic (Sample.ofBools bs)) = some false) :
    Exact.mass theta0 bs ≤ rejectOdds theta1 alpha beta * Exact.mass theta1 bs := by
  have hreject := (judge_eq_false_iff.1 hrejects).2
  by_cases hpositive : bs.count true = 0 ∨ 0 < theta1
  · have hmass := h.mass_theta1_pos hpositive
    by_cases hnegative : bs.count false = 0 ∨ theta0 < 1
    · have hmass' := h.mass_theta0_pos hnegative
      rw [h.reject_eq, h.statistic_eq_log hpositive hnegative, EReal.coe_lt_coe_iff, ← Real.log_inv,
        Real.log_lt_log_iff (inv_pos.2 h.rejectOdds_pos) (div_pos hmass hmass'),
        lt_div_iff₀ hmass', inv_mul_lt_iff₀ h.rejectOdds_pos] at hreject
      exact hreject.le
    · rw [h.mass_theta0_eq_zero hnegative]
      exact mul_nonneg h.rejectOdds_pos.le hmass.le
  · rw [h.statistic_eq_bot hpositive] at hreject
    exact absurd hreject not_lt_bot

/-- A sequence that is accepted is not much more likely at `theta1` than at `theta0`. -/
theorem mass_le_of_accepts
    (haccepts : (ofReals theta0 theta1 alpha beta).judge
      ((ofReals theta0 theta1 alpha beta).statistic (Sample.ofBools bs)) = some true) :
    Exact.mass theta1 bs ≤ acceptOdds theta0 alpha beta * Exact.mass theta0 bs := by
  have haccept := judge_eq_true_iff.1 haccepts
  by_cases hpositive : bs.count true = 0 ∨ 0 < theta1
  · have hmass := h.mass_theta1_pos hpositive
    by_cases hnegative : bs.count false = 0 ∨ theta0 < 1
    · have hmass' := h.mass_theta0_pos hnegative
      rwa [h.accept_eq, h.statistic_eq_log hpositive hnegative, EReal.coe_le_coe_iff,
        Real.log_le_log_iff (div_pos hmass hmass') h.acceptOdds_pos, div_le_iff₀ hmass'] at haccept
    · rw [h.statistic_eq_top hpositive hnegative, h.accept_eq, top_le_iff] at haccept
      exact absurd haccept (EReal.coe_ne_top _)
  · rw [h.mass_theta1_eq_zero hpositive]
    exact mul_nonneg h.acceptOdds_pos.le
      (Exact.mass_nonneg h.theta0_pos.le h.theta0_le bs)

/-! ### More positive observations -/

theorem positive_nonpos : (ofReals theta0 theta1 alpha beta).positive ≤ 0 := by
  rw [h.positive_eq]
  split_ifs
  · exact EReal.coe_nonpos.2 (Real.log_nonpos (div_nonneg h.theta1_nonneg h.theta0_pos.le)
      ((div_le_one h.theta0_pos).2 h.theta1_lt.le))
  · exact bot_le

theorem negative_nonneg : 0 ≤ (ofReals theta0 theta1 alpha beta).negative := by
  rw [h.negative_eq]
  split_ifs with hless
  · refine EReal.coe_nonneg.2 (Real.log_nonneg ((one_le_div (sub_pos.2 hless)).2 ?_))
    linarith [h.theta1_lt]
  · exact le_top

/-- The statistic does not increase when negative observations turn positive. -/
theorem statistic_anti {cs : List Bool} (hle : List.Forall₂ (· ≤ ·) bs cs) :
    (ofReals theta0 theta1 alpha beta).statistic (Sample.ofBools cs)
      ≤ (ofReals theta0 theta1 alpha beta).statistic (Sample.ofBools bs) := by
  have htrue : bs.count true ≤ cs.count true := Exact.count_true_le hle
  have hfalse : cs.count false ≤ bs.count false := by
    have hlength := hle.length_eq
    have hbs := List.count_true_add_count_false bs
    have hcs := List.count_true_add_count_false cs
    omega
  rw [statistic_ofBools, statistic_ofBools]
  refine add_le_add ?_ ?_
  · exact EReal.mul_le_mul_of_nonpos_right (by exact_mod_cast htrue) h.positive_nonpos
  · exact mul_le_mul_of_nonneg_right (by exact_mod_cast hfalse) h.negative_nonneg

theorem isLower_judge : Exact.IsLower fun bs => (ofReals theta0 theta1 alpha beta).judge
    ((ofReals theta0 theta1 alpha beta).statistic (Sample.ofBools bs)) = some false := by
  intro bs cs hle hrejects
  rw [judge_eq_false_iff] at hrejects ⊢
  have hstatistic := h.statistic_anti hle
  exact ⟨hrejects.1.trans_le hstatistic, hrejects.2.trans_le hstatistic⟩

theorem isUpper_judge : Exact.IsUpper fun bs => (ofReals theta0 theta1 alpha beta).judge
    ((ofReals theta0 theta1 alpha beta).statistic (Sample.ofBools bs)) = some true := by
  intro bs cs hle haccepts
  rw [judge_eq_true_iff] at haccepts ⊢
  exact (h.statistic_anti hle).trans haccepts

end Admissible

end RatioLimits

end SimCheck
