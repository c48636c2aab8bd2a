import SimCheck.Test.Threshold
import Mathlib.Tactic.Common

/-!
# Verdicts of threshold tests

A test that has no verdict yet judges its sample after every observation, and a test that starts over
judges the sample that it is given.  Both judge alike, by the numbers the test was created with.

* `ThresholdTest.verdict?` is the verdict that has been reached, if there is one;
* `ThresholdTest.judge` is the verdict on a sample as a function of the sample;
* `verdict?_resume`, `verdict?_push`: what a test says after it starts over, or after an observation;
* `create_undecided`: a new test has no observations and no verdict.
-/

namespace SimCheck

variable {R : Type} [Scalar R]

/-! ### The four tests -/

/-- A computation that is mapped has a value if it has one itself. -/
theorem map_eq_ok_iff {ε α β : Type} {x : Except ε α} {f : α → β} {b : β} :
    x.map f = .ok b ↔ ∃ a, x = .ok a ∧ f a = b := by
  cases x <;> simp [Except.map]

namespace FixedTest

theorem create_eq_ok {region : Region R} {size : Nat} {t : FixedTest R} :
    create region size = .ok t ↔
      (region.theta1 ≤ region.theta0 ∧ 0 < size) ∧ ⟨region, size, ∅, none⟩ = t := by
  unfold create
  split_ifs <;> simp [*]

theorem verdict_push_of_some {t : FixedTest R} {v : Bool} (h : t.verdict = some v) (b : Bool) :
    (t.push b).verdict = some v := by
  simp [push, update, h]

theorem verdict_push_of_none {t : FixedTest R} (h : t.verdict = none) (b : Bool) :
    (t.push b).verdict = judge t.region t.size (t.sample.pushBool b) := by
  simp [push, update, h]

theorem verdict_resume (t : FixedTest R) (s : Sample R) :
    (t.resume s).verdict = judge t.region t.size s := by
  simp [resume, update]

end FixedTest

namespace SingleSamplingTest

theorem create_eq_ok [Distributions R] {region : Region R} {b : ErrorBounds R}
    {t : SingleSamplingTest R} :
    create region b = .ok t ↔
      ∃ plan, Plan.create region b = .ok plan ∧ ⟨region, plan, ∅, none⟩ = t :=
  map_eq_ok_iff

theorem verdict_push_of_some {t : SingleSamplingTest R} {v : Bool} (h : t.verdict = some v)
    (b : Bool) : (t.push b).verdict = some v := by
  simp [push, update, h]

theorem verdict_push_of_none {t : SingleSamplingTest R} (h : t.verdict = none) (b : Bool) :
    (t.push b).verdict = judge t.plan (t.sample.pushBool b) := by
  simp [push, update, h]

theorem verdict_resume (t : SingleSamplingTest R) (s : Sample R) :
    (t.resume s).verdict = judge t.plan s := by
  simp [resume, update]

end SingleSamplingTest

namespace RatioTest

theorem create_eq_ok {region : Region R} {b : ErrorBounds R} {t : RatioTest R} :
    create region b = .ok t ↔
      (region.isProper = true ∧ (Scalar.isOpenUnit b.alpha && Scalar.isOpenUnit b.beta) = true) ∧
        ⟨region, .create region b, ∅, 0, none⟩ = t := by
  unfold create
  cases region.isProper <;> cases Scalar.isOpenUnit b.alpha && Scalar.isOpenUnit b.beta <;> simp

theorem limits_update (t : RatioTest R) : t.update.limits = t.limits := by
  unfold update
  split <;> rfl

theorem sample_update (t : RatioTest R) : t.update.sample = t.sample := by
  unfold update
  split <;> rfl

theorem verdict_push_of_some {t : RatioTest R} {v : Bool} (h : t.verdict = some v) (b : Bool) :
    (t.push b).verdict = some v := by
  simp [push, update, h]

theorem verdict_push_of_none {t : RatioTest R} (h : t.verdict = none) (b : Bool) :
    (t.push b).verdict = t.limits.judge (t.limits.statistic (t.sample.pushBool b)) := by
  simp [push, update, h]

theorem verdict_resume (t : RatioTest R) (s : Sample R) :
    (t.resume s).verdict = t.limits.judge (t.limits.statistic s) := rfl

end RatioTest

namespace IntervalTest

theorem create_eq_ok {region : Region R} {delta alpha : R} {t : IntervalTest R} :
    create region delta alpha = .ok t ↔
      (region.theta1 ≤ region.theta0 ∧ 0 < delta ∧ Scalar.isOpenUnit alpha = true) ∧
        ⟨region, ⟨delta, alpha, ∅, Scalar.infinity, 0, false⟩⟩ = t := by
  unfold create IntervalEstimate.create checkInterval
  split_ifs <;> simp_all [Except.map]

end IntervalTest

namespace IntervalEstimate

variable [Distributions R]

/-- Whether a sample meets the stopping rule. -/
def stops (delta alpha : R) (s : Sample R) : Bool :=
  decide (2 ≤ s.count) && decide (spreadOf s ≤ limitOf delta alpha s.count)

theorem sample_update (e : IntervalEstimate R) : e.update.sample = e.sample := by
  unfold update
  split <;> rfl

theorem delta_update (e : IntervalEstimate R) : e.update.delta = e.delta := by
  unfold update
  split <;> rfl

theorem alpha_update (e : IntervalEstimate R) : e.update.alpha = e.alpha := by
  unfold update
  split <;> rfl

theorem done_update (e : IntervalEstimate R) :
    e.update.done = (e.done || stops e.delta e.alpha e.sample) := by
  unfold update stops
  by_cases hcount : e.sample.count < 2
  · simp [hcount, Nat.not_le.2 hcount]
  · cases hdone : e.done <;> simp [hcount, hdone, Nat.not_lt.1 hcount]

end IntervalEstimate

/-! ### Any test -/

namespace ThresholdTest

variable [Distributions R]

omit [Distributions R] in
/-- The verdict, once there is one. -/
def verdict? (t : ThresholdTest R) : Option Bool := if t.isDone then some t.accepts else none

/-- The verdict on a sample, by the numbers of a test. -/
def judge (t : ThresholdTest R) (s : Sample R) : Option Bool :=
  match t with
  | fixed t => FixedTest.judge t.region t.size s
  | singleSampling t => SingleSamplingTest.judge t.plan s
  | ratio t => t.limits.judge (t.limits.statistic s)
  | interval t =>
    if IntervalEstimate.stops t.estimate.delta t.estimate.alpha s then
      some (decide (t.region.middle < s.mean))
    else none

variable {t : ThresholdTest R}

omit [Distributions R] in
theorem verdict?_eq_some {v : Bool} : t.verdict? = some v ↔ t.isDone = true ∧ t.accepts = v := by
  simp [verdict?]

omit [Distributions R] in
theorem verdict?_eq_none : t.verdict? = none ↔ t.isDone = false := by simp [verdict?]

omit [Distributions R] in
/-- Of a test that stores its verdict the verdict is what is stored. -/
theorem ite_isSome_getD (v : Option Bool) :
    (if v.isSome then some (v.getD false) else none) = v := by
  cases v <;> rfl

@[simp] theorem sample_push (t : ThresholdTest R) (b : Bool) :
    (t.push b).sample = t.sample.pushBool b := by
  cases t with
  | fixed t => rfl
  | singleSampling t => rfl
  | ratio t => exact RatioTest.sample_update _
  | interval t => exact IntervalEstimate.sample_update _

@[simp] theorem sample_resume (t : ThresholdTest R) (s : Sample R) : (t.resume s).sample = s := by
  cases t with
  | fixed t => rfl
  | singleSampling t => rfl
  | ratio t => exact RatioTest.sample_update _
  | interval t => exact IntervalEstimate.sample_update _

@[simp] theorem judge_push (t : ThresholdTest R) (b : Bool) : (t.push b).judge = t.judge := by
  funext s
  cases t with
  | fixed t => rfl
  | singleSampling t => rfl
  | ratio t => simp only [push, judge, RatioTest.push, RatioTest.limits_update]
  | interval t =>
    simp only [push, judge, IntervalTest.push, IntervalEstimate.push,
      IntervalEstimate.delta_update, IntervalEstimate.alpha_update]

@[simp] theorem judge_resume (t : ThresholdTest R) (s : Sample R) :
    (t.resume s).judge = t.judge := by
  funext s'
  cases t with
  | fixed t => rfl
  | singleSampling t => rfl
  | ratio t => simp only [resume, judge, RatioTest.resume, RatioTest.limits_update]
  | interval t =>
    simp only [resume, judge, IntervalTest.resume, IntervalEstimate.resume,
      IntervalEstimate.delta_update, IntervalEstimate.alpha_update]

/-- A test that starts over judges the sample it is given. -/
theorem verdict?_resume (t : ThresholdTest R) (s : Sample R) :
    (t.resume s).verdict? = t.judge s := by
  cases t with
  | fixed t =>
    rw [judge, ← FixedTest.verdict_resume]
    exact ite_isSome_getD _
  | singleSampling t =>
    rw [judge, ← SingleSamplingTest.verdict_resume]
    exact ite_isSome_getD _
  | ratio t =>
    rw [judge, ← RatioTest.verdict_resume]
    exact ite_isSome_getD _
  | interval t =>
    simp only [verdict?, isDone, accepts, resume, judge, IntervalTest.resume, IntervalTest.accepts,
      IntervalEstimate.resume, IntervalEstimate.mean, IntervalEstimate.done_update,
      IntervalEstimate.sample_update, Bool.false_or]

/-- A test without a verdict judges its sample after the next observation. -/
theorem verdict?_push (h : t.isDone = false) (b : Bool) :
    (t.push b).verdict? = t.judge (t.push b).sample := by
  cases t with
  | fixed t =>
    have hnone : t.verdict = none := by simpa [isDone] using h
    rw [judge, sample_push, sample, ← FixedTest.verdict_push_of_none hnone]
    exact ite_isSome_getD _
  | singleSampling t =>
    have hnone : t.verdict = none := by simpa [isDone] using h
    rw [judge, sample_push, sample, ← SingleSamplingTest.verdict_push_of_none hnone]
    exact ite_isSome_getD _
  | ratio t =>
    have hnone : t.verdict = none := by simpa [isDone] using h
    rw [judge, sample_push, sample, ← RatioTest.verdict_push_of_none hnone]
    exact ite_isSome_getD _
  | interval t =>
    have hdone : t.estimate.done = false := h
    simp only [verdict?, isDone, accepts, push, judge, sample, IntervalTest.push,
      IntervalTest.accepts, IntervalEstimate.push, IntervalEstimate.mean,
      IntervalEstimate.done_update, IntervalEstimate.sample_update, hdone, Bool.false_or]

/-! ### Any number of observations -/

@[simp] theorem pushAll_nil (t : ThresholdTest R) : t.pushAll [] = t := rfl

@[simp] theorem pushAll_cons (t : ThresholdTest R) (b : Bool) (bs : List Bool) :
    t.pushAll (b :: bs) = (t.push b).pushAll bs := rfl

theorem pushAll_append (t : ThresholdTest R) (bs cs : List Bool) :
    t.pushAll (bs ++ cs) = (t.pushAll bs).pushAll cs := List.foldl_append

theorem sample_pushAll (t : ThresholdTest R) (bs : List Bool) :
    (t.pushAll bs).sample = bs.foldl Sample.pushBool t.sample := by
  induction bs generalizing t with
  | nil => rfl
  | cons b bs ih => rw [pushAll_cons, ih, sample_push, List.foldl_cons]

theorem count_pushAll (t : ThresholdTest R) (bs : List Bool) :
    (t.pushAll bs).sample.count = t.sample.count + bs.length := by
  induction bs generalizing t with
  | nil => rfl
  | cons b bs ih =>
    rw [pushAll_cons, ih, sample_push, Sample.count_pushBool, List.length_cons]
    omega

@[simp] theorem judge_pushAll (t : ThresholdTest R) (bs : List Bool) :
    (t.pushAll bs).judge = t.judge := by
  induction bs generalizing t with
  | nil => rfl
  | cons b bs ih => rw [pushAll_cons, ih, judge_push]

/-- The first observation that may decide is judged with those before it. -/
theorem verdict?_pushAll_append {bs : List Bool} (h : (t.pushAll bs).isDone = false) (b : Bool) :
    (t.pushAll (bs ++ [b])).verdict? = t.judge (t.pushAll (bs ++ [b])).sample := by
  have hlast : t.pushAll (bs ++ [b]) = (t.pushAll bs).push b := pushAll_append t bs [b]
  rw [hlast, verdict?_push h, judge_pushAll]

/-- A new test has no verdict and no observations. -/
theorem create_undecided {algorithm : ThresholdAlgorithm} {region : Region R} {p : Params R}
    (h : create algorithm region p = .ok t) : t.isDone = false ∧ t.sample = ∅ := by
  cases algorithm with
  | fixed =>
    obtain ⟨t, ht, rfl⟩ := map_eq_ok_iff.1 h
    obtain ⟨-, rfl⟩ := FixedTest.create_eq_ok.1 ht
    exact ⟨rfl, rfl⟩
  | ssp =>
    obtain ⟨t, ht, rfl⟩ := map_eq_ok_iff.1 h
    obtain ⟨plan, -, rfl⟩ := SingleSamplingTest.create_eq_ok.1 ht
    exact ⟨rfl, rfl⟩
  | sprt =>
    obtain ⟨t, ht, rfl⟩ := map_eq_ok_iff.1 h
    obtain ⟨-, rfl⟩ := RatioTest.create_eq_ok.1 ht
    exact ⟨rfl, rfl⟩
  | chowRobbins =>
    obtain ⟨t, ht, rfl⟩ := map_eq_ok_iff.1 h
    obtain ⟨-, rfl⟩ := IntervalTest.create_eq_ok.1 ht
    exact ⟨rfl, rfl⟩

theorem sample_pushAll_create {algorithm : ThresholdAlgorithm} {region : Region R} {p : Params R}
    (h : create algorithm region p = .ok t) (bs : List Bool) :
    (t.pushAll bs).sample = Sample.ofBools bs := by
  rw [sample_pushAll, (create_undecided h).2]
  rfl

end ThresholdTest

end SimCheck
