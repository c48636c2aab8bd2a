import SimCheck.Proofs.Precondition.Params

/-!
# Nested errors and indifference regions

In exact arithmetic.  Paths whose properties are checked by tests of their own are observed with errors,
so that the rate at which observations succeed differs from the probability that a path satisfies its
property.  The region of a test is narrowed by as much: a probability outside the indifference region
around a bound shows as a rate outside the narrowed region.

* `Blurred`: a probability and the rate at which it is observed;
* `Region.around_theta0_le`, `Region.le_around_theta1`: the two ends of the narrowed region;
* `exists_narrow`: what a nested error below the largest one is;
* `Region.absorbs_nested_error`: the narrowed region, and the nested error of valid parameters;
* `Narrowing`: a rate at the end of a narrowed region.
-/

namespace SimCheck

/-- Paths satisfy their property with the probability `p`, and observations succeed at the rate `q`: of
the paths that satisfy it all but a share of `eps` are observed to, of the others all but such a share
are observed not to. -/
structure Blurred (eps p q : EReal) : Prop where
  probability_nonneg : 0 ≤ p
  probability_le_one : p ≤ 1
  rate_nonneg : 0 ≤ q
  rate_le_one : q ≤ 1
  successes_le : p * (1 - eps) ≤ q
  failures_le : (1 - p) * (1 - eps) ≤ 1 - q

namespace Blurred

/-- With an error that is a number. -/
theorem exists_coe {e : ℝ} {p q : EReal} (h : Blurred e p q) :
    ∃ a b : ℝ, p = a ∧ q = b ∧ a * (1 - e) ≤ b ∧ (1 - a) * (1 - e) ≤ 1 - b := by
  have hne {x : EReal} (hnonneg : 0 ≤ x) (hle : x ≤ 1) : x ≠ ⊤ ∧ x ≠ ⊥ :=
    ⟨(hle.trans_lt (EReal.coe_lt_top 1)).ne, (EReal.bot_lt_zero.trans_le hnonneg).ne'⟩
  have hsuccesses := h.successes_le
  have hfailures := h.failures_le
  lift p to ℝ using hne h.probability_nonneg h.probability_le_one with a
  lift q to ℝ using hne h.rate_nonneg h.rate_le_one with b
  refine ⟨a, b, rfl, rfl, ?_, ?_⟩
  · exact_mod_cast hsuccesses
  · exact_mod_cast hfailures

end Blurred

namespace Region

variable {theta d e a b : ℝ}

/-- A probability above the indifference region shows above the narrowed one. -/
theorem around_theta0_le (he : e ≤ 1) (hfar : theta + d ≤ a) (hsuccesses : a * (1 - e) ≤ b) :
    (Region.around (theta : EReal) d e).theta0 ≤ b := by
  rw [around_coe, EReal.coe_le_coe_iff]
  calc min ((theta + d) * (1 - e)) 1 ≤ (theta + d) * (1 - e) := min_le_left _ _
    _ ≤ a * (1 - e) := mul_le_mul_of_nonneg_right hfar (by linarith)
    _ ≤ b := hsuccesses

/-- A probability below the indifference region shows below the narrowed one. -/
theorem le_around_theta1 (he : e ≤ 1) (hfar : a ≤ theta - d)
    (hfailures : (1 - a) * (1 - e) ≤ 1 - b) : b ≤ (Region.around (theta : EReal) d e).theta1 := by
  rw [around_coe, EReal.coe_le_coe_iff]
  have hmul : (1 - (theta - d)) * (1 - e) ≤ (1 - a) * (1 - e) :=
    mul_le_mul_of_nonneg_right (by linarith) (by linarith)
  calc b ≤ 1 - (1 - a) * (1 - e) := by linarith
    _ ≤ 1 - (1 - (theta - d)) * (1 - e) := by linarith
    _ ≤ max (1 - (1 - (theta - d)) * (1 - e)) 0 := le_max_left _ _

end Region

/-- A nested error below the largest one is a number below one, which leaves room.  A half-width that is
infinite admits none. -/
theorem exists_narrow {delta eps : EReal} (hdelta : 0 < delta) (heps : 0 ≤ eps)
    (hroom : eps < delta / (0.5 + delta)) :
    ∃ d e : ℝ, delta = d ∧ eps = e ∧ 0 < d ∧ e < 1 ∧ e * (1 + 2 * d) < 2 * d := by
  have hfinite : delta ≠ ⊤ := by
    rintro rfl
    rw [EReal.add_top_of_ne_bot, EReal.div_top] at hroom
    · exact (hroom.trans_le heps).false
    · exact EReal.coe_ne_bot _
  lift delta to ℝ using ⟨hfinite, (EReal.bot_lt_zero.trans hdelta).ne'⟩ with d
  have hd : 0 < d := EReal.coe_pos.1 hdelta
  rw [Exact.half_eq, ← EReal.coe_add, ← EReal.coe_div] at hroom
  lift eps to ℝ using ⟨hroom.ne_top, (EReal.bot_lt_zero.trans_le heps).ne'⟩ with e
  have hmul : e * (1 / 2 + d) < d := (lt_div_iff₀ (by linarith)).1 (EReal.coe_lt_coe_iff.1 hroom)
  exact ⟨d, e, rfl, rfl, hd, by nlinarith, by linarith⟩

/-- The nested error of valid parameters is positive and below the largest one. -/
theorem Params.nestedErrorBound_mem {params : Params EReal} (hvalid : params.validate = .ok ())
    (hdelta : 0 < params.delta) (hfinite : params.delta ≠ ⊤) :
    0 < params.nestedErrorBound ∧
      params.nestedErrorBound < params.delta / (0.5 + params.delta) := by
  obtain ⟨d, e, hd, he, hleeway⟩ := exists_leeway hvalid hfinite
  rw [hd] at hdelta
  have hpos : 0 < d := EReal.coe_pos.1 hdelta
  have hroom := hleeway.room_lt hpos
  have hlt : e < d / (1 / 2 + d) := (lt_div_iff₀ (by linarith)).2 (by linarith)
  rw [hd, he, Exact.half_eq, ← EReal.coe_add, ← EReal.coe_div]
  exact ⟨EReal.coe_pos.2 (hleeway.error_pos hpos), EReal.coe_lt_coe_iff.2 hlt⟩

/-- **The indifference region absorbs the nested error.** -/
theorem Region.absorbs_nested_error :
    (∀ theta delta eps p q : EReal, 0 ≤ theta → theta ≤ 1 → 0 < delta → 0 ≤ eps →
      eps < delta / (0.5 + delta) → Blurred eps p q →
      (theta + delta ≤ p → (Region.around theta delta eps).theta0 ≤ q) ∧
        (p ≤ theta - delta → q ≤ (Region.around theta delta eps).theta1) ∧
        (Region.around theta delta eps).IsProper) ∧
      ∀ params : Params EReal, params.validate = .ok () → 0 < params.delta → params.delta ≠ ⊤ →
        0 < params.nestedErrorBound ∧
          params.nestedErrorBound < params.delta / (0.5 + params.delta) := by
  refine ⟨?_, fun params => Params.nestedErrorBound_mem⟩
  intro theta delta eps p q htheta htheta' hdelta heps hroom hblurred
  obtain ⟨d, e, rfl, rfl, hd, he, hroom⟩ := exists_narrow hdelta heps hroom
  obtain ⟨a, b, rfl, rfl, hsuccesses, hfailures⟩ := hblurred.exists_coe
  lift theta to ℝ using
    ⟨(htheta'.trans_lt (EReal.coe_lt_top 1)).ne, (EReal.bot_lt_zero.trans_le htheta).ne'⟩
  refine ⟨fun hfar => around_theta0_le he.le ?_ hsuccesses,
    fun hfar => le_around_theta1 he.le ?_ hfailures, isProper_iff.1 (isProper_around ?_ ?_ hd he hroom)⟩
  · exact_mod_cast hfar
  · exact_mod_cast hfar
  · exact EReal.coe_nonneg.1 htheta
  · exact_mod_cast htheta'

namespace Narrowing

/-- The bound of a threshold. -/
noncomputable def theta : EReal := ((9 / 10 : ℝ) : EReal)

/-- The half-width of its region, whose largest nested error is `1 / 11`, and the nested error. -/
noncomputable def delta : EReal := ((1 / 20 : ℝ) : EReal)

/-- The upper end of the region. -/
noncomputable def probability : EReal := ((19 / 20 : ℝ) : EReal)

/-- The rate at which it is observed when nested checks miss as many successes as they may. -/
noncomputable def rate : EReal := ((361 / 400 : ℝ) : EReal)

theorem blurred : Blurred delta probability rate := by
  unfold delta probability rate
  constructor <;> norm_cast <;> norm_num

theorem nested_error_lt : delta < delta / (0.5 + delta) := by
  unfold delta
  rw [Exact.half_eq, ← EReal.coe_add, ← EReal.coe_div, EReal.coe_lt_coe_iff]
  norm_num

theorem add_le_probability : theta + delta ≤ probability := by
  unfold theta delta probability
  norm_cast
  norm_num

/-- The rate is not below the narrowed region, and the parameters that are used where nothing is
configured leave room as well. -/
theorem absorbs_nested_error_narrowing :
    (Region.around theta delta delta).theta0 ≤ rate ∧ (Region.around theta delta delta).IsProper ∧
      0 < (Params.default : Params EReal).nestedErrorBound ∧
      (Params.default : Params EReal).nestedErrorBound
        < (Params.default : Params EReal).delta / (0.5 + (Params.default : Params EReal).delta) := by
  obtain ⟨hregion, hparams⟩ := Region.absorbs_nested_error
  obtain ⟨habove, -, hproper⟩ := hregion theta delta delta probability rate
    (EReal.coe_nonneg.2 (by norm_num)) (EReal.coe_le_coe_iff.2 (by norm_num))
    (EReal.coe_pos.2 (by norm_num)) (EReal.coe_nonneg.2 (by norm_num)) nested_error_lt blurred
  have hdelta : (Params.default : Params EReal).delta = ((0.01 : ℝ) : EReal) := rfl
  refine ⟨habove add_le_probability, hproper, hparams _ Params.validate_default ?_ ?_⟩
  · rw [hdelta]
    exact EReal.coe_pos.2 (by norm_num)
  · rw [hdelta]
    exact EReal.coe_ne_top _

end Narrowing

end SimCheck
