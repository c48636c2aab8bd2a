import Mathlib.Analysis.SpecialFunctions.Trigonometric.ArctanDeriv
import SimCheck.Proofs.Test.Plan
import SimCheck.Proofs.Test.Latch

/-!
# Verdicts under looser bounds

A sample on which a test has just reached its verdict is handed to another test, of the same
algorithm and region but with looser bounds on the errors.  In exact arithmetic:

* `RatioLimits.judge_looser`: the limits of a ratio test move towards each other and do not cross;
* `IntervalEstimate.limitOf_looser`: a spread that was small enough stays small enough;
* `Plan.create_looser`: a plan asks for no more positive observations, and possibly for fewer;
* `looser_bounds_resume`: hence the verdict is kept at once, unless it is a rejection by a single
  sampling plan, which the looser plan judges by the number of positive observations.
-/

namespace SimCheck

/-! ### Ratio tests -/

namespace RatioLimits

variable {region : Region EReal} {b b' : ErrorBounds EReal}

theorem accept_looser (h : b.Looser b') : (create region b).accept ≤ (create region b').accept := by
  unfold create
  dsimp only
  split_ifs
  · exact EReal.sub_le_sub (Exact.ln_mono h.beta) (Exact.ln_mono h.one_sub_alpha)
  · exact Exact.ln_mono h.beta

theorem reject_looser (h : b.Looser b') : (create region b').reject ≤ (create region b).reject := by
  have halpha := EReal.neg_le_neg_iff.2 (Exact.ln_mono h.alpha)
  unfold create
  dsimp only
  split_ifs
  · exact add_le_add halpha (Exact.ln_mono h.one_sub_beta)
  · exact halpha

/-- The limits lie on either side of zero. -/
theorem accept_le_reject (h : b.Looser b') : (create region b').accept ≤ (create region b').reject := by
  have haccept : (create region b').accept ≤ 0 := by
    unfold create
    dsimp only
    split_ifs
    · exact EReal.sub_nonpos.2 (Exact.ln_mono h.beta_le)
    · exact Exact.ln_nonpos h.beta_lt.le
  have halpha : Scalar.ln b'.alpha ≤ 0 := Exact.ln_nonpos h.alpha_lt.le
  have hreject : 0 ≤ (create region b').reject := by
    unfold create
    dsimp only
    split_ifs
    · rw [add_comm]
      exact (EReal.sub_nonneg (.inr (halpha.trans_lt EReal.zero_lt_top).ne)
        (.inr (Exact.ln_ne_bot h.alpha_pos'))).2 (Exact.ln_mono h.alpha_le)
    · exact EReal.neg_nonneg.2 halpha
  exact haccept.trans hreject

theorem judge_looser (hb : b.Looser b') {s : Sample EReal} {v : Bool}
    (h : (create region b).judge ((create region b).statistic s) = some v) :
    (create region b').judge ((create region b').statistic s) = some v := by
  have hstatistic : (create region b').statistic s = (create region b).statistic s := rfl
  rw [hstatistic]
  unfold judge at h ⊢
  split_ifs at h with hle hlt
  · rwa [if_pos (hle.trans (accept_looser hb))]
  · have hlt' : (create region b').reject < _ := (reject_looser hb).trans_lt hlt
    rwa [if_neg ((accept_le_reject hb).trans_lt hlt').not_ge, if_pos hlt']

end RatioLimits

/-! ### Tests by an interval -/

namespace IntervalEstimate

variable [Distributions EReal] {delta alpha alpha' : EReal}

omit [Distributions EReal] in
/-- The Student distribution is asked for quantiles above its median only. -/
theorem probability_mem (hpos : 0 < alpha) (hlt : alpha < 1) :
    (1 / 2 : EReal) < 1 - 0.5 * alpha ∧ (1 - 0.5 * alpha : EReal) < 1 := by
  lift alpha to ℝ using ⟨hlt.ne_top, hpos.ne_bot⟩
  have hpos' : 0 < alpha := EReal.coe_pos.1 hpos
  have hlt' : alpha < 1 := EReal.coe_lt_coe_iff.1 hlt
  have hhalf : (1 / 2 : EReal) = ((1 / 2 : ℝ) : EReal) := by
    rw [EReal.coe_div]
    rfl
  rw [Exact.half_eq, ← EReal.coe_mul, hhalf, ← EReal.coe_one, ← EReal.coe_sub,
    EReal.coe_lt_coe_iff, EReal.coe_lt_coe_iff]
  constructor <;> linarith

theorem limitOf_looser (hexact : Distributions.IsExact) (hdelta : 0 < delta) (hpos : 0 < alpha)
    (h : alpha ≤ alpha') (hlt : alpha' < 1) (n : ℕ) :
    limitOf delta alpha n ≤ limitOf delta alpha' n := by
  obtain ⟨hhalf, hone⟩ := probability_mem (hpos.trans_le h) hlt
  have hone' := (probability_mem hpos (h.trans_lt hlt)).2
  have hle : (1 - 0.5 * alpha' : EReal) ≤ 1 - 0.5 * alpha := by
    rw [Exact.half_eq]
    exact EReal.sub_le_sub le_rfl (mul_le_mul_of_nonneg_left h (EReal.coe_nonneg.2 (by norm_num)))
  have hquantile := hexact.student_pos (n - 1) _ hhalf hone
  have hmono := hexact.student_mono (n - 1) _ _ hhalf hle hone'
  have hsquare := mul_le_mul hmono hmono hquantile.le (hquantile.trans_le hmono).le
  have hnonneg : (0 : EReal) ≤ n * delta * delta :=
    mul_nonneg (mul_nonneg (EReal.coe_nonneg.2 (Nat.cast_nonneg n)) hdelta.le) hdelta.le
  exact Exact.div_anti hnonneg (EReal.mul_pos hquantile hquantile) hsquare

theorem stops_looser (hexact : Distributions.IsExact) (hdelta : 0 < delta) (hpos : 0 < alpha)
    (h : alpha ≤ alpha') (hlt : alpha' < 1) {s : Sample EReal} (hstops : stops delta alpha s = true) :
    stops delta alpha' s = true := by
  simp only [stops, Bool.and_eq_true, decide_eq_true_eq] at hstops ⊢
  exact ⟨hstops.1, hstops.2.trans (limitOf_looser hexact hdelta hpos h hlt s.count)⟩

end IntervalEstimate

/-! ### Single sampling plans -/

/-- The sum of Boolean observations is the number of positive ones. -/
theorem Sample.sum_ofBools (bs : List Bool) :
    (ofBools bs : Sample EReal).sum = ((bs.count true : ℕ) : EReal) := by
  induction bs using List.reverseRecOn with
  | nil => exact Nat.cast_zero.symm
  | append_singleton bs b ih =>
    have hsum : (ofBools (bs ++ [b]) : Sample EReal).sum
        = (ofBools bs : Sample EReal).sum + Scalar.ofBool b := by
      rw [ofBools_append]
      rfl
    rw [hsum, ih, List.count_append, Nat.cast_add]
    cases b <;> simp [Scalar.ofBool]

namespace SingleSamplingTest

variable {plan plan' : Plan} {bs : List Bool} {b : Bool}

theorem judge_ofBools (plan : Plan) (bs : List Bool) :
    judge plan (Sample.ofBools bs : Sample EReal)
      = settled plan bs.length (min (bs.count true : ℤ) Int64.maxValue.toInt) := by
  rw [judge, Sample.count_ofBools, Sample.sum_ofBools, Exact.truncate_natCast]

theorem judge_ofBools_of_lt (h : bs.length < Nat.pow 2 63) :
    judge plan (Sample.ofBools bs : Sample EReal) = settled plan bs.length (bs.count true) := by
  have hle : bs.count true ≤ bs.length := List.count_le_length
  have hmax : Int64.maxValue.toInt = 2 ^ 63 - 1 := by decide
  have hpow : Nat.pow 2 63 = 2 ^ 63 := rfl
  rw [judge_ofBools, min_eq_left (by omega)]

/-- A looser plan accepts what a plan accepts. -/
theorem judge_looser_accepts (hc : plan'.c ≤ plan.c) {s : Sample EReal}
    (h : judge plan s = some true) : judge plan' s = some true := by
  unfold judge settled at h ⊢
  split_ifs at h with hlt hle
  · exact if_pos (hc.trans_lt hlt)
  · cases h

theorem length_le_of_judge_eq_none (h : judge plan (Sample.ofBools bs : Sample EReal) = none)
    (b : Bool) : (bs ++ [b]).length ≤ plan.n := by
  rw [judge_ofBools, settled] at h
  rw [List.length_append, List.length_singleton]
  split_ifs at h
  omega

/-- A plan that rejects after its last observation, and not before, has seen exactly as many negative
ones as it takes. -/
theorem count_of_judge_rejects (hn : plan.n < Nat.pow 2 63)
    (hnone : judge plan (Sample.ofBools bs : Sample EReal) = none)
    (h : judge plan (Sample.ofBools (bs ++ [b]) : Sample EReal) = some false) :
    ((bs ++ [b]).count true : ℤ) = (bs ++ [b]).length + plan.c - plan.n := by
  have hlength := (length_le_of_judge_eq_none hnone b).trans_lt hn
  have hlast : [b].count true ≤ 1 := List.count_le_length
  rw [judge_ofBools_of_lt hlength, settled] at h
  rw [List.count_append, List.length_append, List.length_singleton] at h ⊢
  rw [List.length_append] at hlength
  rw [judge_ofBools_of_lt ((Nat.le_add_right ..).trans_lt hlength), settled] at hnone
  split_ifs at hnone h
  · cases h
  · omega

theorem judge_looser_rejects (hn : plan.n < Nat.pow 2 63)
    (hnone : judge plan (Sample.ofBools bs : Sample EReal) = none)
    (h : judge plan (Sample.ofBools (bs ++ [b]) : Sample EReal) = some false) :
    judge plan' (Sample.ofBools (bs ++ [b]) : Sample EReal)
      = if plan'.c < (bs ++ [b]).count true then some true
        else if plan'.n - plan'.c ≤ plan.n - plan.c then some false else none := by
  have hcount := count_of_judge_rejects hn hnone h
  have hlength := (length_le_of_judge_eq_none hnone b).trans_lt hn
  have hrejects : ((bs ++ [b]).count true : ℤ) ≤ (bs ++ [b]).length + plan'.c - plan'.n ↔
      plan'.n - plan'.c ≤ plan.n - plan.c := by omega
  rw [judge_ofBools_of_lt hlength, settled]
  simp only [hrejects]

end SingleSamplingTest

/-! ### Any test -/

namespace ThresholdTest

section

variable {R : Type} [Scalar R] [Distributions R] {t : ThresholdTest R}

/-- A test that has no verdict does not get one by looking at its sample again. -/
theorem judge_eq_none_of_undecided (hstart : t.judge t.sample = none) {bs : List Bool}
    (h : (t.pushAll bs).isDone = false) : t.judge (t.pushAll bs).sample = none := by
  induction bs using List.reverseRecOn with
  | nil => exact hstart
  | append_singleton bs b _ =>
    have hbefore : (t.pushAll bs).isDone = false := by
      refine eq_false_of_ne_true fun hdone => ?_
      rw [pushAll_append] at h
      exact Bool.false_ne_true (h.symm.trans (isDone_pushAll hdone [b]))
    rw [← verdict?_pushAll_append hbefore, verdict?_eq_none]
    exact h

end

variable [Distributions EReal] {algorithm : ThresholdAlgorithm} {region : Region EReal}
  {p : Params EReal} {b' : ErrorBounds EReal} {t : ThresholdTest EReal}

theorem create_ssp_eq_ok : create .ssp region p = .ok t ↔
    ∃ plan, Plan.create region p.bounds = .ok plan ∧
      .singleSampling ⟨region, plan, ∅, none⟩ = t := by
  unfold create
  simp only [map_eq_ok_iff, SingleSamplingTest.create_eq_ok]
  constructor
  · rintro ⟨_, ⟨plan, hplan, rfl⟩, rfl⟩
    exact ⟨plan, hplan, rfl⟩
  · rintro ⟨plan, hplan, rfl⟩
    exact ⟨_, ⟨plan, hplan, rfl⟩, rfl⟩

/-- Within looser bounds there is a test too, and it judges alike, but for samples that a single
sampling plan rejects. -/
theorem create_looser (hexact : Distributions.IsExact)
    (hcreate : create algorithm region p = .ok t) (halpha : p.alpha ≤ b'.alpha)
    (hbeta : p.beta ≤ b'.beta) (hsum : b'.alpha + b'.beta < 1) :
    ∃ t', create algorithm region (p.withBounds b') = .ok t' ∧
      ∀ s v, algorithm ≠ .ssp ∨ v = true → t.judge s = some v → t'.judge s = some v := by
  cases algorithm with
  | fixed => exact ⟨t, hcreate, fun s v _ h => h⟩
  | ssp =>
    obtain ⟨plan, hplan, rfl⟩ := create_ssp_eq_ok.1 hcreate
    have hlooser : p.bounds.Looser b' :=
      .of_isOpenUnit (Plan.create_eq_ok.1 hplan).1.2 halpha hbeta hsum
    obtain ⟨plan', hplan', -, hc⟩ := Plan.create_looser hexact hlooser hplan
    refine ⟨_, create_ssp_eq_ok.2 ⟨plan', hplan', rfl⟩, ?_⟩
    rintro s v hkept h
    obtain rfl : v = true := hkept.resolve_left (absurd rfl)
    exact SingleSamplingTest.judge_looser_accepts hc h
  | sprt =>
    obtain ⟨t, ht, rfl⟩ := map_eq_ok_iff.1 hcreate
    obtain ⟨⟨hproper, hopen⟩, rfl⟩ := RatioTest.create_eq_ok.1 ht
    have hlooser : p.bounds.Looser b' := .of_isOpenUnit hopen halpha hbeta hsum
    exact ⟨.ratio ⟨region, .create region b', ∅, 0, none⟩,
      map_eq_ok_iff.2 ⟨_, RatioTest.create_eq_ok.2 ⟨⟨hproper, hlooser.isOpenUnit⟩, rfl⟩, rfl⟩,
      fun s v _ h => RatioLimits.judge_looser hlooser h⟩
  | chowRobbins =>
    obtain ⟨t, ht, rfl⟩ := map_eq_ok_iff.1 hcreate
    obtain ⟨⟨hregion, hdelta, hopen⟩, rfl⟩ := IntervalTest.create_eq_ok.1 ht
    have hlooser : p.bounds.Looser b' := .of_isOpenUnit_least hopen halpha hbeta hsum
    refine ⟨.interval ⟨region, p.delta, Scalar.least b'.alpha b'.beta, ∅, Scalar.infinity, 0, false⟩,
      map_eq_ok_iff.2 ⟨_, IntervalTest.create_eq_ok.2
        ⟨⟨hregion, hdelta, hlooser.isOpenUnit_least⟩, rfl⟩, rfl⟩, fun s v _ h => ?_⟩
    unfold judge at h ⊢
    dsimp only at h ⊢
    split_ifs at h with hstops
    rwa [if_pos (IntervalEstimate.stops_looser hexact hdelta hlooser.least_pos hlooser.least_le
      hlooser.least_lt hstops)]

/-- A single sampling plan has no verdict on the empty sample. -/
theorem judge_start (hcreate : create .ssp region p = .ok t) : t.judge t.sample = none := by
  obtain ⟨plan, hplan, rfl⟩ := create_ssp_eq_ok.1 hcreate
  obtain ⟨-, hnonneg, hlt⟩ := Plan.mem_of_create hplan
  have hempty : (∅ : Sample EReal) = Sample.ofBools [] := rfl
  rw [judge, sample, hempty, SingleSamplingTest.judge_ofBools_of_lt (by decide),
    SingleSamplingTest.settled, if_neg (by simpa using hnonneg), if_neg (by simpa using hlt)]

/-- What another plan says to a sample that has just been rejected. -/
theorem judge_of_just_rejected {t' : ThresholdTest EReal} {p' : Params EReal}
    (hcreate : create .ssp region p = .ok t) (hcreate' : create .ssp region p' = .ok t')
    {bs : List Bool} {b : Bool} (hundecided : (t.pushAll bs).isDone = false)
    (hrejects : (t.pushAll (bs ++ [b])).verdict? = some false) :
    ∃ plan plan', Plan.create region p.bounds = .ok plan ∧ Plan.create region p'.bounds = .ok plan' ∧
      t'.judge (t.pushAll (bs ++ [b])).sample =
        if plan'.c < (bs ++ [b]).count true then some true
        else if plan'.n - plan'.c ≤ plan.n - plan.c then some false else none := by
  have hnone := judge_eq_none_of_undecided (judge_start hcreate) hundecided
  rw [verdict?_pushAll_append hundecided, sample_pushAll_create hcreate] at hrejects
  rw [sample_pushAll_create hcreate] at hnone ⊢
  obtain ⟨plan, hplan, rfl⟩ := create_ssp_eq_ok.1 hcreate
  obtain ⟨plan', hplan', rfl⟩ := create_ssp_eq_ok.1 hcreate'
  exact ⟨plan, plan', hplan, hplan', SingleSamplingTest.judge_looser_rejects
    (Plan.mem_of_create hplan).1 hnone hrejects⟩

/-- **In exact arithmetic a verdict that has just been reached is kept under looser bounds**, by every
test but the single sampling one, and by that one if it accepts.  A single sampling test that starts
over from a sample that has just been rejected accepts if there are more positive observations than
the smaller plan asks for; it still rejects if they are not more, and no more negative ones are asked
for than before; else it has no verdict. -/
theorem looser_bounds_resume (hexact : Distributions.IsExact)
    (hcreate : create algorithm region p = .ok t) (halpha : p.alpha ≤ b'.alpha)
    (hbeta : p.beta ≤ b'.beta) (hsum : b'.alpha + b'.beta < 1) (bs : List Bool) (b : Bool)
    (hundecided : (t.pushAll bs).isDone = false) (hdone : (t.pushAll (bs ++ [b])).isDone = true) :
    ∃ t', create algorithm region (p.withBounds b') = .ok t' ∧
      (algorithm ≠ .ssp ∨ (t.pushAll (bs ++ [b])).accepts = true →
        (t'.resume (t.pushAll (bs ++ [b])).sample).isDone = true ∧
          (t'.resume (t.pushAll (bs ++ [b])).sample).accepts = (t.pushAll (bs ++ [b])).accepts) ∧
      (algorithm = .ssp → (t.pushAll (bs ++ [b])).accepts = false →
        ∃ plan plan', Plan.create region p.bounds = .ok plan ∧ Plan.create region b' = .ok plan' ∧
          plan'.n ≤ plan.n ∧ plan'.c ≤ plan.c ∧
          (t'.resume (t.pushAll (bs ++ [b])).sample).verdict? =
            if plan'.c < (bs ++ [b]).count true then some true
            else if plan'.n - plan'.c ≤ plan.n - plan.c then some false else none) := by
  have hverdict : (t.pushAll (bs ++ [b])).verdict? = some (t.pushAll (bs ++ [b])).accepts :=
    verdict?_eq_some.2 ⟨hdone, rfl⟩
  have hjudge : t.judge (t.pushAll (bs ++ [b])).sample = some (t.pushAll (bs ++ [b])).accepts :=
    (verdict?_pushAll_append hundecided b).symm.trans hverdict
  obtain ⟨t', hcreate', hkept⟩ := create_looser hexact hcreate halpha hbeta hsum
  refine ⟨t', hcreate', fun halgorithm => ?_, ?_⟩
  · exact verdict?_eq_some.1 ((verdict?_resume t' _).trans (hkept _ _ halgorithm hjudge))
  · rintro rfl hrejects
    obtain ⟨plan, plan', hplan, hplan', hresult⟩ :=
      judge_of_just_rejected hcreate hcreate' hundecided (hrejects ▸ hverdict)
    have hlooser : p.bounds.Looser b' :=
      .of_isOpenUnit (Plan.create_eq_ok.1 hplan).1.2 halpha hbeta hsum
    obtain ⟨plan'', hplan'', hn, hc⟩ := Plan.create_looser hexact hlooser hplan
    obtain rfl : plan' = plan'' := Except.ok.inj (hplan'.symm.trans hplan'')
    exact ⟨plan, plan', hplan, hplan', hn, hc, (verdict?_resume t' _).trans hresult⟩

end ThresholdTest

/-! ### A rejection that turns into an acceptance -/

namespace Turnabout

/-- Exact binomial probabilities, and the Student quantile with one degree of freedom. -/
noncomputable abbrev distributions : Distributions EReal where
  binomial k n p := (Exact.binomialTail k n p.toReal : EReal)
  studentQuantile _ p := (Real.tan (Real.pi * (p.toReal - 0.5)) : EReal)

theorem isExact_distributions :
    let _ := distributions
    Distributions.IsExact := by
  intro _
  have hpi := Real.pi_pos
  have hhalf : (1 / 2 : EReal) = ((1 / 2 : ℝ) : EReal) := by
    rw [EReal.coe_div]
    rfl
  -- Between the median and one the angle is in the first quadrant.
  have hangle (p : EReal) (hp : 1 / 2 < p) (hp' : p < 1) :
      0 < Real.pi * (p.toReal - 0.5) ∧ Real.pi * (p.toReal - 0.5) < Real.pi / 2 := by
    lift p to ℝ using ⟨hp'.ne_top, (bot_le.trans_lt hp).ne'⟩
    rw [hhalf, EReal.coe_lt_coe_iff] at hp
    have hp' : p < 1 := EReal.coe_lt_coe_iff.1 hp'
    rw [EReal.toReal_coe]
    constructor <;> nlinarith
  refine ⟨fun k n p _ _ => rfl, fun _ p p' hp hle hp' => ?_, fun _ p hp hp' => ?_⟩
  · obtain ⟨hpos, hlt⟩ := hangle p hp (hle.trans_lt hp')
    obtain ⟨hpos', hlt'⟩ := hangle p' (hp.trans_le hle) hp'
    have hreal : p.toReal ≤ p'.toReal :=
      EReal.toReal_le_toReal hle (bot_le.trans_lt hp).ne' hp'.ne_top
    refine EReal.coe_le_coe_iff.2 (Real.strictMonoOn_tan.monotoneOn ⟨?_, hlt⟩ ⟨?_, hlt'⟩ ?_)
    · linarith
    · linarith
    · nlinarith
  · obtain ⟨hpos, hlt⟩ := hangle p hp hp'
    exact EReal.coe_pos.2 (Real.tan_pos_of_pos_of_lt_pi_div_two hpos hlt)

/-- Certainty against one half. -/
noncomputable def region : Region EReal := ⟨1, (0.5 : ℝ)⟩

noncomputable def params : Params EReal :=
  { Params.default with alpha := (0.25 : ℝ), beta := (0.3 : ℝ) }

noncomputable def looser : ErrorBounds EReal := ⟨(0.25 : ℝ), (0.6 : ℝ)⟩

noncomputable def test (plan : Plan) : ThresholdTest EReal := .singleSampling ⟨region, plan, ∅, none⟩

theorem proper_region : 0 ≤ region.theta1 ∧ region.theta1 < region.theta0 ∧ region.theta0 ≤ 1 :=
  ⟨EReal.coe_nonneg.2 (by norm_num), EReal.coe_lt_coe_iff.2 (by norm_num), le_rfl⟩

theorem looser_params : params.alpha ≤ looser.alpha ∧ params.beta ≤ looser.beta ∧
    looser.alpha + looser.beta < 1 :=
  ⟨le_rfl, EReal.coe_le_coe_iff.2 (by norm_num), EReal.coe_lt_coe_iff.2 (by norm_num)⟩

theorem isOpenUnit_coe {x : ℝ} (hpos : 0 < x) (hlt : x < 1) :
    Scalar.isOpenUnit (x : EReal) = true := by
  have hpos' : (0 : EReal) < x := EReal.coe_pos.2 hpos
  have hlt' : (x : EReal) < 1 := EReal.coe_lt_coe_iff.2 hlt
  simp only [Scalar.isOpenUnit, hpos', hlt', decide_true, Bool.and_self]

section

variable [Distributions EReal]

theorem acceptance_eq (hexact : Distributions.IsExact) (n c : ℕ) (beta : ℝ)
    (hn : n < Nat.pow 2 63) (hle : 1 - beta ≤ Exact.binomialTail c n 0.5)
    (hlt : ∀ j < c, Exact.binomialTail j n 0.5 < 1 - beta) :
    Plan.acceptance region ⟨(0.25 : ℝ), beta⟩ n = if c < n then some (c : ℤ) else none := by
  have hhalf : (0 : ℝ) ≤ 0.5 ∧ (0.5 : ℝ) ≤ 1 := by norm_num
  have hquantile := Binomial.quantile_eq hexact.binomial hhalf.1 hhalf.2 hn hle hlt
  have hone := Binomial.quantile_one (y := ((0.25 : ℝ) : EReal)) hn (EReal.coe_pos.2 (by norm_num))
  rw [EReal.coe_sub, EReal.coe_one] at hquantile
  have hle : (c : ℤ) ≤ n - 1 ↔ c < n := by omega
  simp only [Plan.acceptance, region, hquantile, hone, hle]

/-- A plan of one or two observations is the one that is found if there is none of fewer. -/
theorem create_eq {beta : ℝ} (hbeta : 0 < beta) (hbeta' : beta < 1) {i : ℕ} (hi : i ≤ 1) {c : ℤ}
    (hworks : Plan.acceptance region ⟨(0.25 : ℝ), beta⟩ (2 ^ i) = some c)
    (hfirst : ∀ j < i, Plan.acceptance region ⟨(0.25 : ℝ), beta⟩ (2 ^ j) = none) :
    Plan.create region ⟨(0.25 : ℝ), beta⟩ = .ok ⟨2 ^ i, c⟩ := by
  have hproper : region.isProper = true := by
    simp only [Region.isProper, proper_region, decide_true, Bool.and_self]
  have hopen :
      (Scalar.isOpenUnit ((0.25 : ℝ) : EReal) && Scalar.isOpenUnit (beta : EReal)) = true := by
    rw [isOpenUnit_coe (by norm_num) (by norm_num), isOpenUnit_coe hbeta hbeta', Bool.and_self]
  have hpower : Plan.firstPower? region ⟨(0.25 : ℝ), beta⟩ = some (2 ^ i) := by
    refine Plan.firstPower?_eq_some.2
      ⟨i, hi.trans (by decide), rfl, Option.isSome_iff_exists.2 ⟨c, hworks⟩, fun j hj => ?_⟩
    rw [Plan.Works, hfirst j hj]
    exact Bool.false_ne_true
  have hsize : 2 ^ i / 2 + 1 = 2 ^ i := by
    rcases Nat.le_one_iff_eq_zero_or_eq_one.1 hi with rfl | rfl <;> rfl
  have hbisect : bisect (fun n => (Plan.acceptance region ⟨(0.25 : ℝ), beta⟩ n).isSome)
      (2 ^ i / 2 + 1) (2 ^ i) = 2 ^ i := by
    rw [hsize, bisect, if_neg (lt_irrefl _)]
  refine Plan.create_eq_ok.2 ⟨⟨hproper, hopen⟩, _, hpower, ?_⟩
  simp only [Plan.smallest, hbisect, hworks, Option.getD_some]

/-- Two observations are planned, and both must be positive. -/
theorem plan_params (hexact : Distributions.IsExact) :
    Plan.create region params.bounds = .ok ⟨2, 1⟩ := by
  have hone := acceptance_eq hexact 1 1 0.3 (by decide)
    (by norm_num [Exact.binomialTail, Exact.binomialMass, Finset.sum_range_succ])
    (by norm_num [Exact.binomialTail, Exact.binomialMass, Finset.sum_range_succ])
  have htwo := acceptance_eq hexact 2 1 0.3 (by decide)
    (by norm_num [Exact.binomialTail, Exact.binomialMass, Finset.sum_range_succ])
    (by norm_num [Exact.binomialTail, Exact.binomialMass, Finset.sum_range_succ])
  exact create_eq (i := 1) (by norm_num) (by norm_num) le_rfl htwo (by simpa using hone)

/-- Under the looser bounds one positive observation is enough. -/
theorem plan_looser (hexact : Distributions.IsExact) : Plan.create region looser = .ok ⟨1, 0⟩ := by
  have hone := acceptance_eq hexact 1 0 0.6 (by decide)
    (by norm_num [Exact.binomialTail, Exact.binomialMass, Finset.sum_range_succ]) (by norm_num)
  exact create_eq (i := 0) (by norm_num) (by norm_num) zero_le_one hone (by simp)

end

section

variable [Distributions EReal] {b : ErrorBounds EReal} {plan : Plan} {bs : List Bool}

theorem create_test (hplan : Plan.create region b = .ok plan) :
    ThresholdTest.create .ssp region (params.withBounds b) = .ok (test plan) :=
  ThresholdTest.create_ssp_eq_ok.2 ⟨plan, hplan, rfl⟩

theorem judge_test (hplan : Plan.create region b = .ok plan) (h : bs.length < Nat.pow 2 63)
    (plan' : Plan) : (test plan').judge ((test plan).pushAll bs).sample =
      SingleSamplingTest.settled plan' bs.length (bs.count true) := by
  rw [ThresholdTest.sample_pushAll_create (create_test hplan)]
  exact SingleSamplingTest.judge_ofBools_of_lt h

variable (hexact : Distributions.IsExact)
include hexact

/-- One positive observation leaves the test undecided. -/
theorem undecided : ((test ⟨2, 1⟩).pushAll [true]).isDone = false := by
  have hstart : ((test ⟨2, 1⟩).pushAll []).isDone = false := rfl
  exact ThresholdTest.verdict?_eq_none.1 ((ThresholdTest.verdict?_pushAll_append hstart true).trans
    (judge_test (plan_params hexact) (by decide) ⟨2, 1⟩))

/-- The second observation decides. -/
theorem verdict?_two (v : Bool) : ((test ⟨2, 1⟩).pushAll ([true] ++ [v])).verdict? = some v := by
  rw [ThresholdTest.verdict?_pushAll_append (undecided hexact), judge_test (plan_params hexact)]
  · cases v <;> rfl
  · exact Nat.lt_of_lt_of_le (show 2 < 4 by decide) (by decide)

end

/-- One positive observation out of two: rejected, and accepted under the looser bounds. -/
theorem rejection_turns_into_acceptance :
    let _ := distributions
    Distributions.IsExact ∧
      (0 ≤ region.theta1 ∧ region.theta1 < region.theta0 ∧ region.theta0 ≤ 1) ∧
      (params.alpha ≤ looser.alpha ∧ params.beta ≤ looser.beta ∧ looser.alpha + looser.beta < 1) ∧
      ∃ t t', ThresholdTest.create .ssp region params = .ok t ∧
        ThresholdTest.create .ssp region (params.withBounds looser) = .ok t' ∧
        (t.pushAll [true]).isDone = false ∧ (t.pushAll [true, false]).isDone = true ∧
        (t.pushAll [true, false]).accepts = false ∧
        (t'.resume (t.pushAll [true, false]).sample).isDone = true ∧
        (t'.resume (t.pushAll [true, false]).sample).accepts = true := by
  intro _
  have hexact := isExact_distributions
  obtain ⟨hdone, hrejects⟩ := ThresholdTest.verdict?_eq_some.1 (verdict?_two hexact false)
  have hresume : ((test ⟨1, 0⟩).resume ((test ⟨2, 1⟩).pushAll [true, false]).sample).verdict?
      = some true :=
    (ThresholdTest.verdict?_resume _ _).trans (judge_test (plan_params hexact) (by decide) ⟨1, 0⟩)
  obtain ⟨hdone', haccepts⟩ := ThresholdTest.verdict?_eq_some.1 hresume
  exact ⟨hexact, proper_region, looser_params, test ⟨2, 1⟩, test ⟨1, 0⟩,
    create_test (plan_params hexact), create_test (plan_looser hexact), undecided hexact, hdone,
    hrejects, hdone', haccepts⟩

/-- Two positive observations are accepted under either bounds; one out of two is not. -/
theorem looser_bounds_resume_turnabout :
    let _ := distributions
    Distributions.IsExact ∧
      (params.alpha ≤ looser.alpha ∧ params.beta ≤ looser.beta ∧ looser.alpha + looser.beta < 1) ∧
      ThresholdTest.create .ssp region params = .ok (test ⟨2, 1⟩) ∧
      ((test ⟨2, 1⟩).pushAll [true]).isDone = false ∧
      (∀ v, ((test ⟨2, 1⟩).pushAll ([true] ++ [v])).verdict? = some v) ∧
      (∃ t', ThresholdTest.create .ssp region (params.withBounds looser) = .ok t' ∧
        (t'.resume ((test ⟨2, 1⟩).pushAll ([true] ++ [true])).sample).verdict? = some true) ∧
      ∃ t', ThresholdTest.create .ssp region (params.withBounds looser) = .ok t' ∧
        (t'.resume ((test ⟨2, 1⟩).pushAll ([true] ++ [false])).sample).verdict? = some true := by
  intro _
  have hexact := isExact_distributions
  have hcreate := create_test (plan_params hexact)
  obtain ⟨halpha, hbeta, hsum⟩ := looser_params
  have hverdict (v : Bool) := ThresholdTest.verdict?_eq_some.1 (verdict?_two hexact v)
  refine ⟨hexact, looser_params, hcreate, undecided hexact, verdict?_two hexact, ?_, ?_⟩
  · obtain ⟨t', hcreate', hkept, -⟩ := ThresholdTest.looser_bounds_resume hexact hcreate halpha hbeta
      hsum [true] true (undecided hexact) (hverdict true).1
    obtain ⟨hdone, haccepts⟩ := hkept (.inr (hverdict true).2)
    exact ⟨t', hcreate',
      ThresholdTest.verdict?_eq_some.2 ⟨hdone, haccepts.trans (hverdict true).2⟩⟩
  · obtain ⟨t', hcreate', -, hrejected⟩ := ThresholdTest.looser_bounds_resume hexact hcreate halpha
      hbeta hsum [true] false (undecided hexact) (hverdict false).1
    obtain ⟨plan, plan', -, hplan', -, -, hresult⟩ := hrejected rfl (hverdict false).2
    obtain rfl : plan' = ⟨1, 0⟩ := Except.ok.inj (hplan'.symm.trans (plan_looser hexact))
    exact ⟨t', hcreate', hresult⟩

end Turnabout

end SimCheck
