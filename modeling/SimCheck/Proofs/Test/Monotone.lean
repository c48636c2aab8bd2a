import SimCheck.Proofs.Precondition.Params
import SimCheck.Proofs.Test.Wald
import SimCheck.Proofs.Test.Moments

/-!
# More positive observations

A test that stores its verdict is fed two sequences of which one has a positive observation wherever
the other one has.  In exact arithmetic the rules by which the tests judge their samples compare: the
mean and the number of positive observations grow, the statistic of a ratio test falls.  The two runs
stop at different times; a verdict that has been stored is not looked at again.

* `FixedTest.isLower_judge`, `SingleSamplingTest.isLower_judge` and their counterparts: the rules;
* `ThresholdTest.DecidesAt`: the number of observations after which a test is first done;
* `ThresholdTest.more_positives_never_hurt`: an acceptance is kept, and comes no later; a rejection of
  the sequence with more positive observations is one of the other sequence, and came no later.
-/

namespace SimCheck

open Exact (IsLower IsUpper Latches)

/-! ### The rules -/

theorem Sample.mean_ofBools_mono {bs cs : List Bool} (hle : List.Forall₂ (· ≤ ·) bs cs) :
    (ofBools bs : Sample EReal).mean ≤ (ofBools cs : Sample EReal).mean := by
  rw [mean_ofBools, mean_ofBools, EReal.coe_le_coe_iff, hle.length_eq]
  gcongr
  exact Exact.count_true_le hle

namespace FixedTest

variable (region : Region EReal) (size : ℕ)

theorem judge_ofBools (bs : List Bool) : judge region size (Sample.ofBools bs)
    = if size ≤ bs.length then some (decide (region.middle < (Sample.ofBools bs).mean)) else none := by
  rw [judge, Sample.count_ofBools]

theorem isLower_judge : IsLower fun bs => judge region size (Sample.ofBools bs) = some false := by
  intro bs cs hle hrejects
  rw [judge_ofBools] at hrejects ⊢
  rw [hle.length_eq]
  split_ifs at hrejects ⊢ with hsize
  simp only [Option.some.injEq, decide_eq_false_iff_not, not_lt] at hrejects ⊢
  exact (Sample.mean_ofBools_mono hle).trans hrejects

theorem isUpper_judge : IsUpper fun bs => judge region size (Sample.ofBools bs) = some true := by
  intro bs cs hle haccepts
  rw [judge_ofBools] at haccepts ⊢
  rw [← hle.length_eq]
  split_ifs at haccepts ⊢ with hsize
  simp only [Option.some.injEq, decide_eq_true_eq] at haccepts ⊢
  exact haccepts.trans_le (Sample.mean_ofBools_mono hle)

end FixedTest

namespace SingleSamplingTest

variable (plan : Plan)

theorem settled_eq_true_iff {plan : Plan} {count : ℕ} {positives : ℤ} :
    settled plan count positives = some true ↔ plan.c < positives := by
  unfold settled
  split_ifs <;> simp [*]

theorem settled_eq_false_iff {plan : Plan} {count : ℕ} {positives : ℤ} :
    settled plan count positives = some false ↔
      positives ≤ plan.c ∧ positives ≤ count + plan.c - plan.n := by
  unfold settled
  split_ifs with haccepts hrejects
  · simp [haccepts.not_ge]
  · simp [hrejects, not_lt.1 haccepts]
  · simp [hrejects]

/-- The positive observations that a test counts, within the signed 64-bit range. -/
theorem positives_mono {bs cs : List Bool} (hle : List.Forall₂ (· ≤ ·) bs cs) :
    min (bs.count true : ℤ) Int64.maxValue.toInt ≤ min (cs.count true : ℤ) Int64.maxValue.toInt :=
  min_le_min_right _ (Int.ofNat_le.2 (Exact.count_true_le hle))

theorem isLower_judge :
    IsLower fun bs => judge plan (Sample.ofBools bs : Sample EReal) = some false := by
  intro bs cs hle hrejects
  rw [judge_ofBools, settled_eq_false_iff] at hrejects ⊢
  have hpositives := positives_mono hle
  rw [hle.length_eq]
  exact ⟨hpositives.trans hrejects.1, hpositives.trans hrejects.2⟩

theorem isUpper_judge :
    IsUpper fun bs => judge plan (Sample.ofBools bs : Sample EReal) = some true := by
  intro bs cs hle haccepts
  rw [judge_ofBools, settled_eq_true_iff] at haccepts ⊢
  exact haccepts.trans_le (positives_mono hle)

end SingleSamplingTest

namespace RatioTest

/-- A test that is created has limits of real numbers. -/
theorem exists_admissible {region : Region EReal} {b : ErrorBounds EReal} {t : RatioTest EReal}
    (hcreate : create region b = .ok t) :
    ∃ theta0 theta1 alpha beta, RatioLimits.Admissible theta0 theta1 alpha beta ∧
      t.limits = RatioLimits.ofReals theta0 theta1 alpha beta := by
  obtain ⟨⟨hproper, hopen⟩, rfl⟩ := create_eq_ok.1 hcreate
  rw [Bool.and_eq_true, isOpenUnit_iff, isOpenUnit_iff] at hopen
  obtain ⟨theta0, theta1, htheta0, htheta1, hnonneg, hlt, hle⟩ :=
    Plan.exists_coe_of_isProper hproper
  obtain ⟨alpha, halpha, halpha_pos, halpha_lt⟩ := hopen.1.exists_coe
  obtain ⟨beta, hbeta, hbeta_pos, hbeta_lt⟩ := hopen.2.exists_coe
  obtain ⟨_, _⟩ := region
  obtain ⟨_, _⟩ := b
  subst htheta0 htheta1 halpha hbeta
  exact ⟨theta0, theta1, alpha, beta,
    ⟨hnonneg, hlt, hle, halpha_pos, halpha_lt, hbeta_pos, hbeta_lt⟩, rfl⟩

end RatioTest

/-! ### Any test that stores its verdict -/

namespace ThresholdTest

section

variable {R : Type} [Scalar R] [Distributions R] {t : ThresholdTest R} {bs : List Bool} {v : Bool}
  {k : ℕ}

/-- The test is first done after that many of the observations, and then it has that verdict. -/
def DecidesAt (t : ThresholdTest R) (v : Bool) (bs : List Bool) (k : ℕ) : Prop :=
  k ≤ bs.length ∧ (t.pushAll (bs.take k)).isDone = true ∧ (t.pushAll (bs.take k)).accepts = v ∧
    ∀ j < k, (t.pushAll (bs.take j)).isDone = false

theorem DecidesAt.le_of_isDone (h : t.DecidesAt v bs k) {j : ℕ}
    (hdone : (t.pushAll (bs.take j)).isDone = true) : k ≤ j :=
  Nat.not_lt.1 fun hlt => Bool.false_ne_true ((h.2.2.2 j hlt).symm.trans hdone)

theorem DecidesAt.verdict?_eq (h : t.DecidesAt v bs k) :
    (t.pushAll (bs.take k)).verdict? = some v :=
  verdict?_eq_some.2 ⟨h.2.1, h.2.2.1⟩

/-- A test that has a verdict in the end has had it since it was first done. -/
theorem exists_decidesAt (hstores : t.storesVerdict = true)
    (h : (t.pushAll bs).verdict? = some v) : ∃ k, t.DecidesAt v bs k := by
  have hend : bs.length ≤ bs.length ∧ (t.pushAll (bs.take bs.length)).isDone = true := by
    rw [List.take_length]
    exact ⟨le_rfl, (verdict?_eq_some.1 h).1⟩
  classical
  have hexists : ∃ k, k ≤ bs.length ∧ (t.pushAll (bs.take k)).isDone = true := ⟨_, hend⟩
  obtain ⟨hk, hdone⟩ := Nat.find_spec hexists
  have hfirst : ∀ j < Nat.find hexists, (t.pushAll (bs.take j)).isDone = false := fun j hj =>
    eq_false_of_ne_true fun hdone => Nat.find_min hexists hj ⟨hj.le.trans hk, hdone⟩
  generalize Nat.find hexists = k at hk hdone hfirst
  -- The verdict at that time is the one in the end, for it is kept.
  have hkept := verdict?_pushAll_of_some ((storesVerdict_pushAll t _).trans hstores)
    (verdict?_eq_some.2 ⟨hdone, rfl⟩) (bs.drop k)
  rw [← pushAll_append, List.take_append_drop, h, Option.some_inj] at hkept
  exact ⟨k, hk, hdone, hkept.symm, hfirst⟩

/-- A new test latches what it judges. -/
theorem latches {algorithm : ThresholdAlgorithm} {region : Region R} {p : Params R}
    (hcreate : create algorithm region p = .ok t) (halgorithm : algorithm ≠ .chowRobbins) :
    Latches (fun bs => t.judge (Sample.ofBools bs)) fun bs => (t.pushAll bs).verdict? where
  kept bs b v h := by
    have hstores := (storesVerdict_pushAll t bs).trans ((storesVerdict_create hcreate).2 halgorithm)
    rw [pushAll_append]
    exact verdict?_push_of_some hstores h b
  judged bs b h := by
    rw [verdict?_pushAll_append (verdict?_eq_none.1 h), sample_pushAll_create hcreate]

end

variable [Distributions EReal] {algorithm : ThresholdAlgorithm} {region : Region EReal}
  {p : Params EReal} {t : ThresholdTest EReal}

/-- More positive observations speak against a rejection and for an acceptance. -/
theorem judge_monotone (hcreate : create algorithm region p = .ok t)
    (halgorithm : algorithm ≠ .chowRobbins) :
    (IsLower fun bs => t.judge (Sample.ofBools bs) = some false) ∧
      IsUpper fun bs => t.judge (Sample.ofBools bs) = some true := by
  cases algorithm with
  | fixed =>
    obtain ⟨t, -, rfl⟩ := map_eq_ok_iff.1 hcreate
    exact ⟨FixedTest.isLower_judge t.region t.size, FixedTest.isUpper_judge t.region t.size⟩
  | ssp =>
    obtain ⟨t, -, rfl⟩ := map_eq_ok_iff.1 hcreate
    exact ⟨SingleSamplingTest.isLower_judge t.plan, SingleSamplingTest.isUpper_judge t.plan⟩
  | sprt =>
    obtain ⟨t, ht, rfl⟩ := map_eq_ok_iff.1 hcreate
    obtain ⟨theta0, theta1, alpha, beta, hadmissible, hlimits⟩ := RatioTest.exists_admissible ht
    simp only [judge, hlimits]
    exact ⟨hadmissible.isLower_judge, hadmissible.isUpper_judge⟩
  | chowRobbins => exact absurd rfl halgorithm

/-- **More positive observations never hurt.**  Let `ys` have a positive observation wherever `xs` has
one.  If a test that stores its verdict accepts after `xs`, it accepts after `ys`, and is done with `ys`
no later than with `xs`; if it rejects after `ys`, it rejects after `xs`, and is done with `xs` no later
than with `ys`. -/
theorem more_positives_never_hurt (hcreate : create algorithm region p = .ok t)
    (halgorithm : algorithm ≠ .chowRobbins) {xs ys : List Bool}
    (hle : List.Forall₂ (· ≤ ·) xs ys) :
    ((t.pushAll xs).isDone = true → (t.pushAll xs).accepts = true →
      (t.pushAll ys).isDone = true ∧ (t.pushAll ys).accepts = true ∧
        ∃ j k, j ≤ k ∧ t.DecidesAt true ys j ∧ t.DecidesAt true xs k) ∧
    ((t.pushAll ys).isDone = true → (t.pushAll ys).accepts = false →
      (t.pushAll xs).isDone = true ∧ (t.pushAll xs).accepts = false ∧
        ∃ j k, j ≤ k ∧ t.DecidesAt false xs j ∧ t.DecidesAt false ys k) := by
  have hstores := (storesVerdict_create hcreate).2 halgorithm
  obtain ⟨hlower, hupper⟩ := judge_monotone hcreate halgorithm
  have hcoupled {bs cs : List Bool} (hle : List.Forall₂ (· ≤ ·) bs cs) :=
    (latches hcreate halgorithm).monotone hlower hupper hle
  -- What holds of the whole sequences holds of what has been observed at the time of the verdict.
  have htake (k : ℕ) : List.Forall₂ (· ≤ ·) (xs.take k) (ys.take k) := List.forall₂_take k hle
  refine ⟨fun hdone haccepts => ?_, fun hdone hrejects => ?_⟩
  · have hxs := verdict?_eq_some.2 ⟨hdone, haccepts⟩
    have hys := (hcoupled hle).2 hxs
    obtain ⟨k, hk⟩ := exists_decidesAt hstores hxs
    obtain ⟨j, hj⟩ := exists_decidesAt hstores hys
    have hyk := (hcoupled (htake k)).2 hk.verdict?_eq
    obtain ⟨hdone', haccepts'⟩ := verdict?_eq_some.1 hys
    exact ⟨hdone', haccepts', j, k, hj.le_of_isDone (verdict?_eq_some.1 hyk).1, hj, hk⟩
  · have hys := verdict?_eq_some.2 ⟨hdone, hrejects⟩
    have hxs := (hcoupled hle).1 hys
    obtain ⟨k, hk⟩ := exists_decidesAt hstores hys
    obtain ⟨j, hj⟩ := exists_decidesAt hstores hxs
    have hxk := (hcoupled (htake k)).1 hk.verdict?_eq
    obtain ⟨hdone', hrejects'⟩ := verdict?_eq_some.1 hxs
    exact ⟨hdone', hrejects', j, k, hj.le_of_isDone (verdict?_eq_some.1 hxk).1, hj, hk⟩

end ThresholdTest

/-! ### An observation that is impossible at one end -/

namespace Foothold

open RatioLimits (Admissible ofReals)

/-- Where no observation is positive at the lower end, a single positive one decides. -/
noncomputable def region : Region EReal := ⟨(0.5 : ℝ), (0 : ℝ)⟩

noncomputable def params : Params EReal :=
  { Params.default with alpha := (0.25 : ℝ), beta := (0.25 : ℝ) }

theorem admissible : Admissible 0.5 0 0.25 0.25 := by
  constructor <;> norm_num

/-- After one negative observation a test is undecided. -/
theorem judge_negative : (ofReals 0.5 0 0.25 0.25).judge
    ((ofReals 0.5 0 0.25 0.25).statistic (Sample.ofBools [false])) = none := by
  have hstatistic : (ofReals 0.5 0 0.25 0.25).statistic (Sample.ofBools [false])
      = (Real.log (Exact.mass 0 [false] / Exact.mass 0.5 [false]) : ℝ) :=
    admissible.statistic_eq_log (.inl rfl) (.inr (by norm_num))
  have hmasses : Exact.mass 0 [false] / Exact.mass 0.5 [false] = 2 := by
    norm_num [Exact.mass]
  have haccept : ¬Real.log 2 ≤ Real.log (RatioLimits.acceptOdds 0.5 0.25 0.25) := by
    rw [RatioLimits.acceptOdds, if_pos (by norm_num), not_le]
    exact Real.log_lt_log (by norm_num) (by norm_num)
  have hreject : ¬-Real.log (RatioLimits.rejectOdds 0 0.25 0.25) < Real.log 2 := by
    rw [RatioLimits.rejectOdds, if_neg (lt_irrefl _), ← Real.log_inv, not_lt]
    exact Real.log_le_log two_pos (by norm_num)
  rw [← EReal.coe_le_coe_iff, ← admissible.accept_eq] at haccept
  rw [← EReal.coe_lt_coe_iff, ← admissible.reject_eq] at hreject
  rw [hstatistic, hmasses, RatioLimits.judge, if_neg haccept, if_neg hreject]

/-- A positive observation after the negative one is accepted. -/
theorem judge_positive : (ofReals 0.5 0 0.25 0.25).judge
    ((ofReals 0.5 0 0.25 0.25).statistic (Sample.ofBools [false, true])) = some true := by
  have hstatistic : (ofReals 0.5 0 0.25 0.25).statistic (Sample.ofBools [false, true]) = ⊥ :=
    admissible.statistic_eq_bot (by simp)
  rw [hstatistic, RatioLimits.judge_eq_true_iff]
  exact bot_le

/-- A test that accepts after a negative and a positive observation accepts no later if both are
positive. -/
theorem more_positives_never_hurt_foothold :
    let _ := Turnabout.distributions
    ∃ t, ThresholdTest.create .sprt region params = .ok t ∧
      (t.pushAll [true, true]).isDone = true ∧ (t.pushAll [true, true]).accepts = true ∧
      ∃ j k, j ≤ k ∧ t.DecidesAt true [true, true] j ∧ t.DecidesAt true [false, true] k := by
  intro _
  obtain ⟨t, hratio, hnew⟩ := RatioTest.exists_create admissible
  have hcreate : ThresholdTest.create .sprt region params = .ok (.ratio t) :=
    map_eq_ok_iff.2 ⟨t, hratio, rfl⟩
  have hlatches := ThresholdTest.latches hcreate (by decide)
  have hjudge (bs : List Bool) : (ThresholdTest.ratio t).judge (Sample.ofBools bs)
      = (ofReals 0.5 0 0.25 0.25).judge
        ((ofReals 0.5 0 0.25 0.25).statistic (Sample.ofBools bs)) := by
    rw [ThresholdTest.judge, hnew.limits]
  have hstart : ((ThresholdTest.ratio t).pushAll []).verdict? = none :=
    ThresholdTest.verdict?_eq_none.2 (ThresholdTest.create_undecided hcreate).1
  have hnegative : ((ThresholdTest.ratio t).pushAll [false]).verdict? = none :=
    (hlatches.judged [] false hstart).trans ((hjudge _).trans judge_negative)
  have hpositive : ((ThresholdTest.ratio t).pushAll [false, true]).verdict? = some true :=
    (hlatches.judged [false] true hnegative).trans ((hjudge _).trans judge_positive)
  obtain ⟨hdone, haccepts⟩ := ThresholdTest.verdict?_eq_some.1 hpositive
  have hle : List.Forall₂ (· ≤ ·) [false, true] [true, true] :=
    .cons (Bool.false_le true) (.cons le_rfl .nil)
  exact ⟨_, hcreate, (ThresholdTest.more_positives_never_hurt hcreate (by decide) hle).1 hdone haccepts⟩

end Foothold

end SimCheck
