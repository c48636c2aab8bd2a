import SimCheck.Proofs.Test.Binomial
import SimCheck.Plan

/-!
# Plans within looser bounds

* `ErrorBounds.Looser`: bounds that allow at least the errors of others, and less than all errors;
* `Plan.create_eq_ok`: a plan that is found is the smallest one above half of a power of two, the
  first at which there is one;
* `Plan.size_mem`: the sizes that a plan can have;
* `Plan.create_looser`: within looser bounds there is a plan as well, and it asks for no more
  observations and no more positive ones.
-/

namespace SimCheck

/-! ### Looser bounds -/

/-- The second bounds allow at least the errors that the first ones allow, and less than all errors
together. -/
structure ErrorBounds.Looser (b b' : ErrorBounds EReal) : Prop where
  alpha_pos : 0 < b.alpha
  beta_pos : 0 < b.beta
  alpha : b.alpha ≤ b'.alpha
  beta : b.beta ≤ b'.beta
  sum_lt : b'.alpha + b'.beta < 1

namespace ErrorBounds.Looser

variable {b b' : ErrorBounds EReal}

theorem of_isOpenUnit (hopen : (Scalar.isOpenUnit b.alpha && Scalar.isOpenUnit b.beta) = true)
    (halpha : b.alpha ≤ b'.alpha) (hbeta : b.beta ≤ b'.beta) (hsum : b'.alpha + b'.beta < 1) :
    Looser b b' := by
  simp only [Scalar.isOpenUnit, Bool.and_eq_true, decide_eq_true_eq] at hopen
  exact ⟨hopen.1.1, hopen.2.1, halpha, hbeta, hsum⟩

theorem of_isOpenUnit_least (hopen : Scalar.isOpenUnit (Scalar.least b.alpha b.beta) = true)
    (halpha : b.alpha ≤ b'.alpha) (hbeta : b.beta ≤ b'.beta) (hsum : b'.alpha + b'.beta < 1) :
    Looser b b' := by
  simp only [Scalar.isOpenUnit, Bool.and_eq_true, decide_eq_true_eq, Exact.least_eq_min,
    lt_min_iff] at hopen
  exact ⟨hopen.1.1, hopen.1.2, halpha, hbeta, hsum⟩

theorem alpha_pos' (h : Looser b b') : 0 < b'.alpha := h.alpha_pos.trans_le h.alpha

theorem beta_pos' (h : Looser b b') : 0 < b'.beta := h.beta_pos.trans_le h.beta

theorem alpha_lt (h : Looser b b') : b'.alpha < 1 :=
  (le_add_of_nonneg_right h.beta_pos'.le).trans_lt h.sum_lt

theorem beta_lt (h : Looser b b') : b'.beta < 1 :=
  (le_add_of_nonneg_left h.alpha_pos'.le).trans_lt h.sum_lt

theorem isOpenUnit (h : Looser b b') :
    (Scalar.isOpenUnit b'.alpha && Scalar.isOpenUnit b'.beta) = true := by
  simp [Scalar.isOpenUnit, h.alpha_pos', h.beta_pos', h.alpha_lt, h.beta_lt]

theorem least_pos (h : Looser b b') : 0 < Scalar.least b.alpha b.beta := by
  rw [Exact.least_eq_min]
  exact lt_min h.alpha_pos h.beta_pos

theorem least_le (h : Looser b b') :
    Scalar.least b.alpha b.beta ≤ Scalar.least b'.alpha b'.beta := by
  rw [Exact.least_eq_min, Exact.least_eq_min]
  exact min_le_min h.alpha h.beta

theorem least_lt (h : Looser b b') : Scalar.least b'.alpha b'.beta < 1 := by
  rw [Exact.least_eq_min]
  exact (min_le_left _ _).trans_lt h.alpha_lt

theorem isOpenUnit_least (h : Looser b b') :
    Scalar.isOpenUnit (Scalar.least b'.alpha b'.beta) = true := by
  have hpos : 0 < Scalar.least b'.alpha b'.beta := h.least_pos.trans_le h.least_le
  simp [Scalar.isOpenUnit, hpos, h.least_lt]

theorem one_sub_beta_pos (h : Looser b b') : 0 < 1 - b'.beta := EReal.sub_pos.2 h.beta_lt

theorem one_sub_alpha (h : Looser b b') : 1 - b'.alpha ≤ 1 - b.alpha :=
  EReal.sub_le_sub le_rfl h.alpha

theorem one_sub_beta (h : Looser b b') : 1 - b'.beta ≤ 1 - b.beta :=
  EReal.sub_le_sub le_rfl h.beta

theorem one_sub_beta_le_one (h : Looser b b') : 1 - b.beta ≤ 1 :=
  EReal.sub_le_of_le_add (le_add_of_nonneg_right h.beta_pos.le)

theorem alpha_le (h : Looser b b') : b'.alpha ≤ 1 - b'.beta :=
  (EReal.le_sub_iff_add_le (.inl h.beta_pos'.ne_bot) (.inl h.beta_lt.ne_top)).2 h.sum_lt.le

theorem beta_le (h : Looser b b') : b'.beta ≤ 1 - b'.alpha :=
  (EReal.le_sub_iff_add_le (.inl h.alpha_pos'.ne_bot) (.inl h.alpha_lt.ne_top)).2
    (by rw [add_comm]; exact h.sum_lt.le)

end ErrorBounds.Looser

namespace Plan

/-! ### Plans of any numbers -/

section

variable {R : Type} [Scalar R] [Distributions R] {r : Region R} {b : ErrorBounds R} {plan : Plan}

theorem create_eq_ok :
    create r b = .ok plan ↔
      (r.isProper = true ∧ (Scalar.isOpenUnit b.alpha && Scalar.isOpenUnit b.beta) = true) ∧
        ∃ hi, firstPower? r b = some hi ∧ smallest r b hi = plan := by
  unfold create
  cases r.isProper <;> cases Scalar.isOpenUnit b.alpha && Scalar.isOpenUnit b.beta <;>
    cases firstPower? r b <;> simp

/-- A plan draws observations, and no more than the largest size that is looked at. -/
theorem size_mem (h : create r b = .ok plan) : 0 < plan.n ∧ plan.n ≤ 2 ^ maxDoublings := by
  obtain ⟨-, hi, hpower, rfl⟩ := create_eq_ok.1 h
  obtain ⟨i, hi, rfl⟩ := List.mem_map.1 (List.mem_of_find?_eq_some hpower)
  have hpow : 2 ^ i ≤ 2 ^ maxDoublings :=
    Nat.pow_le_pow_right two_pos (Nat.le_of_lt_succ (List.mem_range.1 hi))
  have hpos : 0 < 2 ^ i := Nat.two_pow_pos i
  have hmem := bisect_mem (fun n => (acceptance r b n).isSome) (show 2 ^ i / 2 + 1 ≤ 2 ^ i by omega)
  exact ⟨(Nat.succ_pos _).trans_le hmem.1, hmem.2.trans hpow⟩

end

/-! ### Smallest plans -/

variable [Distributions EReal] {r : Region EReal} {b b' : ErrorBounds EReal} {n hi : ℕ} {plan : Plan}

omit [Distributions EReal] in
theorem lt_of_le_of_two_pow {i k : ℕ} (hi : i ≤ maxDoublings) (hk : k ≤ 2 ^ i) :
    k < Nat.pow 2 63 := by
  have hpow : 2 ^ i ≤ 2 ^ maxDoublings := Nat.pow_le_pow_right two_pos hi
  exact (hk.trans hpow).trans_lt (Nat.pow_lt_pow_right one_lt_two (by decide))

/-- There is a plan of a size. -/
def Works (r : Region EReal) (b : ErrorBounds EReal) (n : ℕ) : Prop := (acceptance r b n).isSome = true

theorem acceptance_eq_some {c : ℤ} :
    acceptance r b n = some c ↔
      c ≤ Binomial.quantile b.alpha n r.theta0 - 1 ∧
        Binomial.quantile (1 - b.beta) n r.theta1 = c := by
  unfold acceptance
  dsimp only
  split_ifs with hle
  · rw [Option.some_inj]
    exact ⟨fun heq => ⟨heq ▸ hle, heq⟩, And.right⟩
  · refine ⟨False.elim, ?_⟩
    rintro ⟨hc, rfl⟩
    exact absurd hc hle

/-- Within looser bounds a plan of the same size accepts as often. -/
theorem acceptance_looser (hb : b.Looser b') (hn : n < Nat.pow 2 63) {c : ℤ}
    (h : acceptance r b n = some c) : ∃ c' ≤ c, acceptance r b' n = some c' := by
  obtain ⟨hc, rfl⟩ := acceptance_eq_some.1 h
  have hle := Binomial.quantile_mono (p := r.theta1) hn hb.one_sub_beta_pos hb.one_sub_beta
  have hle' := Binomial.quantile_mono (p := r.theta0) hn hb.alpha_pos hb.alpha
  exact ⟨_, hle, acceptance_eq_some.2 ⟨by omega, rfl⟩⟩

theorem Works.looser (hb : b.Looser b') (hn : n < Nat.pow 2 63) (h : Works r b n) :
    Works r b' n := by
  obtain ⟨c, hc⟩ := Option.isSome_iff_exists.1 h
  obtain ⟨c', -, hc'⟩ := acceptance_looser hb hn hc
  exact Option.isSome_iff_exists.2 ⟨c', hc'⟩

theorem firstPower?_eq_some :
    firstPower? r b = some hi ↔
      ∃ i ≤ maxDoublings, 2 ^ i = hi ∧ Works r b (2 ^ i) ∧ ∀ j < i, ¬Works r b (2 ^ j) := by
  unfold firstPower?
  rw [List.find?_map, Option.map_eq_some_iff]
  simp only [List.find?_range_eq_some, List.mem_range, Function.comp_apply, Nat.pow_eq,
    Bool.not_eq_true', Works, Bool.not_eq_true, Nat.lt_succ_iff]
  constructor
  · rintro ⟨i, ⟨hworks, hi, hfirst⟩, rfl⟩
    exact ⟨i, hi, rfl, hworks, hfirst⟩
  · rintro ⟨i, hi, rfl, hworks, hfirst⟩
    exact ⟨i, ⟨hworks, hi, hfirst⟩, rfl⟩

/-- The smallest plan has an acceptance number if there is one at the upper end. -/
theorem smallest_spec (hhi : 0 < hi) (h : Works r b hi) :
    hi / 2 < (smallest r b hi).n ∧ (smallest r b hi).n ≤ hi ∧
      acceptance r b (smallest r b hi).n = some (smallest r b hi).c := by
  have hmem := bisect_mem (fun n => (acceptance r b n).isSome) (show hi / 2 + 1 ≤ hi by omega)
  refine ⟨hmem.1, hmem.2, ?_⟩
  have hworks : Works r b (smallest r b hi).n := by
    rcases hmem.2.lt_or_eq with hlt | heq
    · exact bisect_passes hlt
    · show Works r b (bisect _ _ _)
      rwa [heq]
  obtain ⟨c, hc⟩ := Option.isSome_iff_exists.1 hworks
  show acceptance r b (smallest r b hi).n = some ((acceptance r b (smallest r b hi).n).getD 0)
  rw [hc]
  rfl

omit [Distributions EReal] in
/-- The ends of a proper region are real. -/
theorem exists_coe_of_isProper (h : r.isProper = true) :
    ∃ q₀ q₁ : ℝ, r.theta0 = q₀ ∧ r.theta1 = q₁ ∧ 0 ≤ q₁ ∧ q₁ < q₀ ∧ q₀ ≤ 1 := by
  simp only [Region.isProper, Bool.and_eq_true, decide_eq_true_eq] at h
  obtain ⟨⟨hnonneg, hlt⟩, hle⟩ := h
  have htop : r.theta0 ≠ ⊤ := (hle.trans_lt (EReal.coe_lt_top 1)).ne
  have hbot : r.theta1 ≠ ⊥ := (EReal.bot_lt_zero.trans_le hnonneg).ne'
  have hq₀ : ((r.theta0.toReal : ℝ) : EReal) = r.theta0 :=
    EReal.coe_toReal htop (hnonneg.trans_lt hlt).ne_bot
  have hq₁ : ((r.theta1.toReal : ℝ) : EReal) = r.theta1 := EReal.coe_toReal hlt.ne_top hbot
  refine ⟨_, _, hq₀.symm, hq₁.symm, ?_, ?_, ?_⟩
  · rwa [← EReal.coe_nonneg, hq₁]
  · rwa [← EReal.coe_lt_coe_iff, hq₀, hq₁]
  · rwa [← EReal.coe_le_coe_iff, hq₀]

/-- **Within looser bounds there is a plan too, with no more observations and no larger acceptance
number.** -/
theorem create_looser (hexact : Distributions.IsExact) (hb : b.Looser b')
    (h : create r b = .ok plan) :
    ∃ plan', create r b' = .ok plan' ∧ plan'.n ≤ plan.n ∧ plan'.c ≤ plan.c := by
  obtain ⟨⟨hproper, -⟩, hi, hpower, rfl⟩ := create_eq_ok.1 h
  obtain ⟨i, hi, rfl, hworks, -⟩ := firstPower?_eq_some.1 hpower
  have hsize {k : ℕ} (hk : k ≤ 2 ^ i) : k < Nat.pow 2 63 := lt_of_le_of_two_pow hi hk
  -- Within the looser bounds the doubling stops at this power or before it.
  classical
  have hexists : ∃ j, Works r b' (2 ^ j) := ⟨i, hworks.looser hb (hsize le_rfl)⟩
  have hj : Nat.find hexists ≤ i := Nat.find_min' hexists (hworks.looser hb (hsize le_rfl))
  have hpower' : firstPower? r b' = some (2 ^ Nat.find hexists) := firstPower?_eq_some.2
    ⟨_, hj.trans hi, rfl, Nat.find_spec hexists, fun j hj => Nat.find_min hexists hj⟩
  generalize Nat.find hexists = j at hj hpower'
  obtain ⟨_, _, hj', hworks', -⟩ := firstPower?_eq_some.1 hpower'
  rw [hj'] at hworks'
  obtain ⟨hlower, hupper, hc⟩ := smallest_spec (Nat.two_pow_pos i) hworks
  obtain ⟨-, hupper', hc'⟩ := smallest_spec (Nat.two_pow_pos j) hworks'
  have hn : (smallest r b' (2 ^ j)).n ≤ (smallest r b (2 ^ i)).n := by
    rcases hj.lt_or_eq with hlt | rfl
    · have hhalf : 2 ^ j ≤ 2 ^ i / 2 := by
        rw [Nat.le_div_iff_mul_le two_pos, ← Nat.pow_succ]
        exact Nat.pow_le_pow_right two_pos hlt
      omega
    · exact bisect_le_bisect fun x _ hx hpass => Works.looser hb (hsize hx.le) hpass
  refine ⟨smallest r b' (2 ^ j), create_eq_ok.2 ⟨⟨hproper, hb.isOpenUnit⟩, _, hpower', rfl⟩, hn, ?_⟩
  obtain ⟨q', q, -, hq, hq0, hlt, hq'⟩ := exists_coe_of_isProper hproper
  have hq1 : q ≤ 1 := hlt.le.trans hq'
  rw [← (acceptance_eq_some.1 hc').2, ← (acceptance_eq_some.1 hc).2, hq]
  calc Binomial.quantile (1 - b'.beta) (smallest r b' (2 ^ j)).n (q : EReal)
      ≤ Binomial.quantile (1 - b.beta) (smallest r b' (2 ^ j)).n (q : EReal) :=
        Binomial.quantile_mono (hsize (hn.trans hupper)) hb.one_sub_beta_pos hb.one_sub_beta
    _ ≤ Binomial.quantile (1 - b.beta) (smallest r b (2 ^ i)).n (q : EReal) :=
        Binomial.quantile_mono_size hexact.binomial hq0 hq1 (hsize hupper) hb.one_sub_beta_le_one hn

/-- The size of a plan fits a signed word, and its acceptance number is below its size. -/
theorem mem_of_create (h : create r b = .ok plan) :
    plan.n < Nat.pow 2 63 ∧ 0 ≤ plan.c ∧ plan.c < plan.n := by
  obtain ⟨-, hi, hpower, rfl⟩ := create_eq_ok.1 h
  obtain ⟨i, hi, rfl, hworks, -⟩ := firstPower?_eq_some.1 hpower
  obtain ⟨-, hupper, hc⟩ := smallest_spec (Nat.two_pow_pos i) hworks
  obtain ⟨hle, heq⟩ := acceptance_eq_some.1 hc
  have hn := lt_of_le_of_two_pow hi hupper
  have hfirst := (Binomial.quantile_mem (y := b.alpha) (p := r.theta0) hn).2
  have hsecond := (Binomial.quantile_mem (y := 1 - b.beta) (p := r.theta1) hn).1
  exact ⟨hn, heq ▸ hsecond, by omega⟩

end Plan

end SimCheck
