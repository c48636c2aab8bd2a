import SimCheck.Proofs.Test.Looser
import SimCheck.Proofs.Test.Moments

/-!
# When the sequential estimator stops

The estimator stops when `1/n + s²` falls below a bound that grows with `n`.  The unbiased variance of
`n` Boolean observations is at most `n / (4 (n - 1))`, however they turn out, so that the left side is
never above one, and the bound reaches one as soon as `n` is the square of `A / δ`, if `A` bounds the
quantiles.

* `Exact.inv_add_variance_le`: the left side of the stopping rule is at most one;
* `IntervalEstimate.done_iff`: an estimator is done once the rule has been met, and stays so;
* `IntervalEstimate.stops_within`: on every sequence it stops, at the first `n` at which the rule holds,
  and within `max 2 (⌈A / δ⌉₊ ^ 2)` observations.
-/

namespace SimCheck

/-! ### The variance of Boolean observations -/

namespace Exact

/-- The variance is largest if there are as many positive observations as negative ones. -/
theorem variance_indicators_le {bs : List Bool} (h : 2 ≤ bs.length) :
    variance (indicators bs) ≤ bs.length / (4 * (bs.length - 1)) := by
  have hlength : (2 : ℝ) ≤ bs.length := by exact_mod_cast h
  have hpos : (0 : ℝ) < bs.length - 1 := by linarith
  rw [variance, scatter_indicators, length_indicators, div_div, div_le_div_iff₀ (by positivity)
    (by positivity)]
  have hsquare : (4 : ℝ) * (bs.count true * (bs.length - bs.count true)) ≤ bs.length ^ 2 := by
    nlinarith [sq_nonneg ((bs.length : ℝ) - 2 * bs.count true)]
  calc (bs.count true * (bs.length - bs.count true) : ℝ) * (4 * (bs.length - 1))
      = 4 * (bs.count true * (bs.length - bs.count true)) * (bs.length - 1) := by ring
    _ ≤ bs.length ^ 2 * (bs.length - 1) := mul_le_mul_of_nonneg_right hsquare hpos.le
    _ = bs.length * (bs.length * (bs.length - 1)) := by ring

theorem inv_add_variance_le {bs : List Bool} (h : 2 ≤ bs.length) :
    1 / (bs.length : ℝ) + variance (indicators bs) ≤ 1 := by
  have hlength : (2 : ℝ) ≤ bs.length := by exact_mod_cast h
  have hinv : 1 / (bs.length : ℝ) ≤ 1 / 2 := one_div_le_one_div_of_le two_pos hlength
  have hquarter : (bs.length : ℝ) / (4 * (bs.length - 1)) ≤ 1 / 2 := by
    rw [div_le_div_iff₀ (by linarith) two_pos]
    linarith
  linarith [variance_indicators_le h]

end Exact

/-! ### The stopping rule -/

namespace IntervalEstimate

section

variable {R : Type} [Scalar R] [Distributions R] {e : IntervalEstimate R}

/-- The estimator after further Boolean observations. -/
def pushAll (e : IntervalEstimate R) (bs : List Bool) : IntervalEstimate R :=
  bs.foldl (fun e b => e.push (Scalar.ofBool b)) e

theorem pushAll_append_singleton (e : IntervalEstimate R) (bs : List Bool) (b : Bool) :
    e.pushAll (bs ++ [b]) = (e.pushAll bs).push (Scalar.ofBool b) := List.foldl_append

theorem delta_pushAll (e : IntervalEstimate R) (bs : List Bool) :
    (e.pushAll bs).delta = e.delta := by
  induction bs using List.reverseRecOn with
  | nil => rfl
  | append_singleton bs b ih =>
    rw [pushAll_append_singleton, push, delta_update]
    exact ih

theorem alpha_pushAll (e : IntervalEstimate R) (bs : List Bool) :
    (e.pushAll bs).alpha = e.alpha := by
  induction bs using List.reverseRecOn with
  | nil => rfl
  | append_singleton bs b ih =>
    rw [pushAll_append_singleton, push, alpha_update]
    exact ih

theorem sample_pushAll (e : IntervalEstimate R) (bs : List Bool) :
    (e.pushAll bs).sample = bs.foldl Sample.pushBool e.sample := by
  induction bs using List.reverseRecOn with
  | nil => rfl
  | append_singleton bs b ih =>
    rw [pushAll_append_singleton, push, sample_update, List.foldl_append, ← ih]
    rfl

/-- An estimator is done if it was before, or if its sample meets the stopping rule. -/
theorem done_pushAll_append_singleton (hsample : e.sample = ∅) (bs : List Bool) (b : Bool) :
    (e.pushAll (bs ++ [b])).done
      = ((e.pushAll bs).done || stops e.delta e.alpha (Sample.ofBools (bs ++ [b]))) := by
  have hbefore : (e.pushAll bs).sample = Sample.ofBools bs := by
    rw [sample_pushAll, hsample]
    rfl
  rw [pushAll_append_singleton, push, done_update, Sample.ofBools_append]
  dsimp only
  rw [delta_pushAll, alpha_pushAll, hbefore]
  rfl

end

variable [Distributions EReal] {delta alpha : ℝ}

/-- The quantile that is asked for after `n` observations. -/
noncomputable def quantile (alpha : ℝ) (n : ℕ) : ℝ :=
  (Distributions.studentQuantile ((n - 1 : ℕ) : EReal) ((1 - 0.5 * alpha : ℝ) : EReal)).toReal

/-- The stopping rule, for the observations so far. -/
def MeetsRule (delta alpha : ℝ) (bs : List Bool) : Prop :=
  1 / (bs.length : ℝ) + Exact.variance (Exact.indicators bs)
    ≤ bs.length * delta ^ 2 / quantile alpha bs.length ^ 2

/-- Quantiles that are positive and do not exceed a bound. -/
def QuantilesWithin (alpha A : ℝ) : Prop :=
  ∀ freedom : ℕ, 1 ≤ freedom →
    0 < Distributions.studentQuantile (freedom : EReal) ((1 - 0.5 * alpha : ℝ) : EReal) ∧
      Distributions.studentQuantile (freedom : EReal) ((1 - 0.5 * alpha : ℝ) : EReal) ≤ (A : EReal)

theorem QuantilesWithin.quantile_mem {A : ℝ} (h : QuantilesWithin alpha A) {n : ℕ} (hn : 2 ≤ n) :
    Distributions.studentQuantile ((n - 1 : ℕ) : EReal) ((1 - 0.5 * alpha : ℝ) : EReal)
        = (quantile alpha n : EReal) ∧
      0 < quantile alpha n ∧ quantile alpha n ≤ A := by
  obtain ⟨hpos, hle⟩ := h (n - 1) (by omega)
  have hcoe : Distributions.studentQuantile ((n - 1 : ℕ) : EReal) ((1 - 0.5 * alpha : ℝ) : EReal)
      = (quantile alpha n : EReal) :=
    (EReal.coe_toReal (hle.trans_lt (EReal.coe_lt_top A)).ne hpos.ne_bot).symm
  rw [hcoe] at hpos hle
  exact ⟨hcoe, EReal.coe_pos.1 hpos, EReal.coe_le_coe_iff.1 hle⟩

/-- The bound of the stopping rule in real numbers. -/
theorem limitOf_coe {A : ℝ} (h : QuantilesWithin alpha A) {n : ℕ} (hn : 2 ≤ n) :
    limitOf (delta : EReal) alpha n = ((n * delta ^ 2 / quantile alpha n ^ 2 : ℝ) : EReal) := by
  have hfreedom : ((n : EReal) - 1 : EReal) = ((n - 1 : ℕ) : EReal) := by
    rw [← EReal.coe_natCast, ← EReal.coe_natCast, ← EReal.coe_one, ← EReal.coe_sub,
      Nat.cast_sub (by omega), Nat.cast_one]
  have hprobability : (1 - 0.5 * alpha : EReal) = ((1 - 0.5 * alpha : ℝ) : EReal) := by
    rw [Exact.half_eq, ← EReal.coe_mul, ← EReal.coe_one, ← EReal.coe_sub]
    ring_nf
  have hlimit : limitOf (delta : EReal) alpha n
      = (n : EReal) * delta * delta
        / (Distributions.studentQuantile ((n : EReal) - 1) (1 - 0.5 * alpha)
          * Distributions.studentQuantile ((n : EReal) - 1) (1 - 0.5 * alpha)) := rfl
  rw [hlimit, hfreedom, hprobability, (h.quantile_mem hn).1, ← EReal.coe_natCast, ← EReal.coe_mul,
    ← EReal.coe_mul, ← EReal.coe_mul, ← EReal.coe_div]
  ring_nf

/-- A sample of at least two observations meets the stopping rule. -/
theorem stops_ofBools_iff {A : ℝ} (h : QuantilesWithin alpha A) (bs : List Bool) :
    stops (delta : EReal) alpha (Sample.ofBools bs) = true ↔
      2 ≤ bs.length ∧ MeetsRule delta alpha bs := by
  rw [stops, Bool.and_eq_true, decide_eq_true_eq, decide_eq_true_eq, Sample.count_ofBools]
  refine and_congr_right fun hlength => ?_
  have hspread : spreadOf (Sample.ofBools bs : Sample EReal)
      = ((1 / (bs.length : ℝ) + Exact.variance (Exact.indicators bs) : ℝ) : EReal) := by
    rw [spreadOf, Sample.unbiasedVariance_ofBools, Sample.count_ofBools, ← EReal.coe_one,
      Exact.div_natCast, ← EReal.coe_add]
  rw [hspread, limitOf_coe h hlength, EReal.coe_le_coe_iff, MeetsRule]

/-- Once there are enough observations the bound is at least one. -/
theorem meetsRule_of_le {A : ℝ} (h : QuantilesWithin alpha A) (hdelta : 0 < delta) {bs : List Bool}
    (hlength : 2 ≤ bs.length) (hle : ⌈A / delta⌉₊ ^ 2 ≤ bs.length) : MeetsRule delta alpha bs := by
  obtain ⟨-, hpos, hquantile⟩ := h.quantile_mem hlength
  refine (Exact.inv_add_variance_le hlength).trans ?_
  rw [one_le_div (by positivity)]
  have hratio : A / delta ≤ ⌈A / delta⌉₊ := Nat.le_ceil _
  have hA : 0 ≤ A / delta := div_nonneg (hpos.le.trans hquantile) hdelta.le
  calc quantile alpha bs.length ^ 2
      ≤ A ^ 2 := pow_le_pow_left₀ hpos.le hquantile 2
    _ = (A / delta) ^ 2 * delta ^ 2 := by rw [← mul_pow, div_mul_cancel₀ _ hdelta.ne']
    _ ≤ (⌈A / delta⌉₊ : ℝ) ^ 2 * delta ^ 2 := by gcongr
    _ ≤ bs.length * delta ^ 2 := by gcongr; exact_mod_cast hle

/-! ### Sequences of observations -/

/-- The first observations of a sequence. -/
def firstOf (x : ℕ → Bool) (n : ℕ) : List Bool := (List.range n).map x

omit [Distributions EReal] in
@[simp] theorem length_firstOf (x : ℕ → Bool) (n : ℕ) : (firstOf x n).length = n := by
  simp [firstOf]

omit [Distributions EReal] in
theorem firstOf_succ (x : ℕ → Bool) (n : ℕ) : firstOf x (n + 1) = firstOf x n ++ [x n] := by
  simp [firstOf, List.range_succ]

omit [Distributions EReal] in
theorem create_coe (hdelta : 0 < delta) (halpha : 0 < alpha) (halpha' : alpha < 1) :
    create (delta : EReal) alpha = .ok ⟨delta, alpha, ∅, ⊤, 0, false⟩ := by
  have hwidth : (0 : EReal) < delta := EReal.coe_pos.2 hdelta
  have hpos : (0 : EReal) < alpha := EReal.coe_pos.2 halpha
  have hlt : (alpha : EReal) < 1 := EReal.coe_lt_coe_iff.2 halpha'
  have hopen : Scalar.isOpenUnit (alpha : EReal) = true := by
    simp [Scalar.isOpenUnit, hpos, hlt]
  rw [create, checkInterval, if_pos hwidth, if_pos hopen]
  rfl

/-- A new estimator is done once the stopping rule has been met. -/
theorem done_iff {A : ℝ} (h : QuantilesWithin alpha A) {e : IntervalEstimate EReal}
    (hcreate : create (delta : EReal) alpha = .ok e) (x : ℕ → Bool) (k : ℕ) :
    (e.pushAll (firstOf x k)).done = true ↔
      ∃ n, n ≤ k ∧ 2 ≤ n ∧ MeetsRule delta alpha (firstOf x n) := by
  obtain ⟨-, -, rfl⟩ := map_eq_ok_iff.1 hcreate
  induction k with
  | zero => simp [firstOf, pushAll]
  | succ k ih =>
    rw [firstOf_succ, done_pushAll_append_singleton rfl, Bool.or_eq_true, ih, ← firstOf_succ,
      stops_ofBools_iff h, length_firstOf]
    constructor
    · rintro (⟨n, hn, hrule⟩ | hrule)
      · exact ⟨n, hn.trans k.le_succ, hrule⟩
      · exact ⟨k + 1, le_rfl, hrule⟩
    · rintro ⟨n, hn, hrule⟩
      rcases Nat.le_succ_iff.1 hn with hn | rfl
      · exact .inl ⟨n, hn, hrule⟩
      · exact .inr hrule

open Classical in
/-- **The sequential estimator stops on every sequence of Boolean observations**, if the quantiles it
asks for are positive and at most `A`.  It is not done before two observations, it is done after
`max 2 (⌈A / δ⌉₊ ^ 2)` of them at the latest, and it becomes so at the first `n` from two onwards at
which the stopping rule holds. -/
theorem stops_within (hdelta : 0 < delta) (halpha : 0 < alpha) (halpha' : alpha < 1) {A : ℝ}
    (h : QuantilesWithin alpha A) (x : ℕ → Bool) :
    ∃ e, create (delta : EReal) alpha = .ok e ∧ ∃ n,
      (∀ k, (e.pushAll (firstOf x k)).done = true ↔ n ≤ k) ∧
      2 ≤ n ∧ n ≤ max 2 (⌈A / delta⌉₊ ^ 2) ∧
      MeetsRule delta alpha (firstOf x n) ∧
      ∀ m, 2 ≤ m → m < n → ¬MeetsRule delta alpha (firstOf x m) := by
  have hlatest : 2 ≤ max 2 (⌈A / delta⌉₊ ^ 2) ∧
      MeetsRule delta alpha (firstOf x (max 2 (⌈A / delta⌉₊ ^ 2))) :=
    ⟨le_max_left _ _, meetsRule_of_le h hdelta (by simp) (by simp)⟩
  have hexists : ∃ n, 2 ≤ n ∧ MeetsRule delta alpha (firstOf x n) := ⟨_, hlatest⟩
  refine ⟨_, create_coe hdelta halpha halpha', Nat.find hexists, fun k => ?_,
    (Nat.find_spec hexists).1, Nat.find_min' hexists hlatest, (Nat.find_spec hexists).2, ?_⟩
  · rw [done_iff h (create_coe hdelta halpha halpha'), Nat.find_le_iff]
  · exact fun m hm hlt hrule => Nat.find_min hexists hlt ⟨hm, hrule⟩

end IntervalEstimate

/-! ### Positive and negative observations in turn -/

namespace Seesaw

/-- The Student quantiles at three quarters with one and with two degrees of freedom, the only ones that
are asked. -/
noncomputable abbrev distributions : Distributions EReal where
  binomial _ _ _ := 0
  studentQuantile freedom _ := open Classical in if freedom = 1 then 1 else (√(1 / 1.5) : ℝ)

/-- A positive observation, a negative one, and so on. -/
def turns (n : ℕ) : Bool := n % 2 == 0

theorem sqrt_mem : 0 < √(1 / 1.5 : ℝ) ∧ √(1 / 1.5 : ℝ) ≤ 1 :=
  ⟨Real.sqrt_pos.2 (by norm_num), Real.sqrt_le_one.2 (by norm_num)⟩

theorem quantilesWithin :
    let _ := distributions
    IntervalEstimate.QuantilesWithin (1 / 2) 1 := by
  intro _ freedom _
  show 0 < (if (freedom : EReal) = 1 then (1 : EReal) else (√(1 / 1.5) : ℝ)) ∧
    (if (freedom : EReal) = 1 then (1 : EReal) else (√(1 / 1.5) : ℝ)) ≤ ((1 : ℝ) : EReal)
  split_ifs
  · exact ⟨zero_lt_one, le_rfl⟩
  · exact ⟨EReal.coe_pos.2 sqrt_mem.1, EReal.coe_le_coe_iff.2 sqrt_mem.2⟩

theorem quantile_two :
    let _ := distributions
    IntervalEstimate.quantile (1 / 2) 2 = 1 := by
  intro _
  show (if ((2 - 1 : ℕ) : EReal) = 1 then (1 : EReal) else (√(1 / 1.5) : ℝ)).toReal = 1
  simp

theorem quantile_three :
    let _ := distributions
    IntervalEstimate.quantile (1 / 2) 3 = √(1 / 1.5) := by
  intro _
  have hne : ((3 - 1 : ℕ) : EReal) ≠ 1 := by exact_mod_cast (by decide : (3 - 1 : ℕ) ≠ 1)
  show (if ((3 - 1 : ℕ) : EReal) = 1 then (1 : EReal) else (√(1 / 1.5) : ℝ)).toReal = _
  rw [if_neg hne, EReal.toReal_coe]

theorem variance_two : Exact.variance (Exact.indicators [true, false]) = 1 / 2 := by
  rw [Exact.variance, Exact.scatter_indicators]
  norm_num

theorem variance_three : Exact.variance (Exact.indicators [true, false, true]) = 1 / 3 := by
  rw [Exact.variance, Exact.scatter_indicators]
  norm_num

/-- With a half-width of one half the estimator stops after the third observation. -/
theorem stops_within_seesaw :
    let _ := distributions
    ∃ e, IntervalEstimate.create ((1 / 2 : ℝ) : EReal) ((1 / 2 : ℝ) : EReal) = .ok e ∧
      ∀ k, (e.pushAll (IntervalEstimate.firstOf turns k)).done = true ↔ 3 ≤ k := by
  intro _
  obtain ⟨e, hcreate, n, hdone, htwo, -, hrule, hbefore⟩ :=
    IntervalEstimate.stops_within (show (0 : ℝ) < 1 / 2 by norm_num)
      (show (0 : ℝ) < 1 / 2 by norm_num) (by norm_num) quantilesWithin turns
  have hnot : ¬IntervalEstimate.MeetsRule (1 / 2) (1 / 2) [true, false] := by
    rw [IntervalEstimate.MeetsRule, variance_two, List.length_cons, List.length_singleton,
      quantile_two]
    norm_num
  have hmeets : IntervalEstimate.MeetsRule (1 / 2) (1 / 2) [true, false, true] := by
    rw [IntervalEstimate.MeetsRule, variance_three, List.length_cons, List.length_cons,
      List.length_singleton, quantile_three, Real.sq_sqrt (by norm_num)]
    norm_num
  have hn : n = 3 := by
    have hne : n ≠ 2 := by
      rintro rfl
      exact hnot hrule
    have hle : n ≤ 3 := Nat.not_lt.1 fun hlt => hbefore 3 (by decide) hlt hmeets
    omega
  exact ⟨e, hcreate, hn ▸ hdone⟩

end Seesaw

end SimCheck
