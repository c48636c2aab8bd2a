import SimCheck.Proofs.Test.Verdict
import SimCheck.Scalar.Binary64

/-!
# Verdicts under further observations

A test that is done can be fed further observations.  It stays done and goes on counting.  The tests
that store their verdict keep it; a test by an interval compares its running mean with the middle of
the region whenever it is asked.

* `isDone_push`, `verdict?_push_of_some`: one observation more;
* `verdict_latched_of_isDone`: any number of them, for the tests of all algorithms;
* `Pendulum`: a test of a fixed size keeps its verdict; a test by an interval accepts at first and
  rejects later on.
-/

namespace SimCheck

variable {R : Type} [Scalar R] [Distributions R]

namespace ThresholdTest

variable {t : ThresholdTest R}

omit [Scalar R] [Distributions R] in
/-- Whether the test stores its verdict when it reaches it. -/
def storesVerdict : ThresholdTest R → Bool
  | fixed _ | singleSampling _ | ratio _ => true
  | interval _ => false

theorem storesVerdict_push (t : ThresholdTest R) (b : Bool) :
    (t.push b).storesVerdict = t.storesVerdict := by cases t <;> rfl

theorem storesVerdict_pushAll (t : ThresholdTest R) (bs : List Bool) :
    (t.pushAll bs).storesVerdict = t.storesVerdict := by
  induction bs generalizing t with
  | nil => rfl
  | cons b bs ih => exact (ih (t.push b)).trans (storesVerdict_push t b)

theorem storesVerdict_create {algorithm : ThresholdAlgorithm} {region : Region R} {p : Params R}
    (h : create algorithm region p = .ok t) :
    t.storesVerdict = true ↔ algorithm ≠ .chowRobbins := by
  cases algorithm <;> obtain ⟨t, -, rfl⟩ := map_eq_ok_iff.1 h <;> simp [storesVerdict]

/-- A stored verdict survives an observation. -/
theorem verdict?_push_of_some (hstores : t.storesVerdict = true) {v : Bool}
    (h : t.verdict? = some v) (b : Bool) : (t.push b).verdict? = some v := by
  cases t with
  | fixed t =>
    have ht : t.verdict = some v := (ite_isSome_getD t.verdict).symm.trans h
    exact (ite_isSome_getD _).trans (FixedTest.verdict_push_of_some ht b)
  | singleSampling t =>
    have ht : t.verdict = some v := (ite_isSome_getD t.verdict).symm.trans h
    exact (ite_isSome_getD _).trans (SingleSamplingTest.verdict_push_of_some ht b)
  | ratio t =>
    have ht : t.verdict = some v := (ite_isSome_getD t.verdict).symm.trans h
    exact (ite_isSome_getD _).trans (RatioTest.verdict_push_of_some ht b)
  | interval t => cases hstores

theorem isDone_push (h : t.isDone = true) (b : Bool) : (t.push b).isDone = true := by
  cases hstores : t.storesVerdict with
  | true =>
    have hverdict := verdict?_push_of_some hstores (verdict?_eq_some.2 ⟨h, rfl⟩) b
    exact (verdict?_eq_some.1 hverdict).1
  | false =>
    cases t with
    | interval t =>
      have hdone : t.estimate.done = true := h
      simp [push, isDone, IntervalTest.push, IntervalEstimate.push, IntervalEstimate.done_update,
        hdone]
    | fixed t => cases hstores
    | singleSampling t => cases hstores
    | ratio t => cases hstores

theorem isDone_pushAll (h : t.isDone = true) (bs : List Bool) : (t.pushAll bs).isDone = true := by
  induction bs generalizing t with
  | nil => exact h
  | cons b bs ih => exact ih (isDone_push h b)

theorem verdict?_pushAll_of_some (hstores : t.storesVerdict = true) {v : Bool}
    (h : t.verdict? = some v) (bs : List Bool) : (t.pushAll bs).verdict? = some v := by
  induction bs generalizing t with
  | nil => exact h
  | cons b bs ih => exact ih (storesVerdict_push t b ▸ hstores) (verdict?_push_of_some hstores h b)

/-- A test by an interval always compares the mean of its sample with the middle of its region. -/
theorem accepts_pushAll_interval (t : IntervalTest R) (bs : List Bool) :
    ((interval t).pushAll bs).accepts
      = decide (t.region.middle < ((interval t).pushAll bs).sample.mean) := by
  induction bs generalizing t with
  | nil => rfl
  | cons b bs ih => exact ih (t.push b)

/-- **A test that is done stays done and counts on, and unless it is a test by an interval its verdict
stands.**  A test by an interval follows the mean of its sample. -/
theorem verdict_latched_of_isDone {algorithm : ThresholdAlgorithm} {region : Region R} {p : Params R}
    (hcreate : create algorithm region p = .ok t) (bs cs : List Bool)
    (hdone : (t.pushAll bs).isDone = true) :
    (t.pushAll (bs ++ cs)).isDone = true ∧
      (t.pushAll (bs ++ cs)).sample = Sample.ofBools (bs ++ cs) ∧
      (t.pushAll (bs ++ cs)).sample.count = bs.length + cs.length ∧
      (algorithm ≠ .chowRobbins → (t.pushAll (bs ++ cs)).accepts = (t.pushAll bs).accepts) ∧
      (algorithm = .chowRobbins → (t.pushAll (bs ++ cs)).accepts
        = decide (region.middle < (Sample.ofBools (bs ++ cs) : Sample R).mean)) := by
  have hsample := sample_pushAll_create hcreate (bs ++ cs)
  have hcount : (t.pushAll (bs ++ cs)).sample.count = bs.length + cs.length := by
    rw [hsample, Sample.count_ofBools, List.length_append]
  refine ⟨?_, hsample, hcount, fun halgorithm => ?_, ?_⟩
  · rw [pushAll_append]
    exact isDone_pushAll hdone cs
  · have hstores : (t.pushAll bs).storesVerdict = true := by
      rw [storesVerdict_pushAll]
      exact (storesVerdict_create hcreate).2 halgorithm
    rw [pushAll_append]
    exact (verdict?_eq_some.1
      (verdict?_pushAll_of_some hstores (verdict?_eq_some.2 ⟨hdone, rfl⟩) cs)).2
  · rintro rfl
    obtain ⟨t, ht, rfl⟩ := map_eq_ok_iff.1 hcreate
    obtain ⟨-, rfl⟩ := IntervalTest.create_eq_ok.1 ht
    rw [accepts_pushAll_interval, hsample]

end ThresholdTest

/-! ### Verdicts that stand and verdicts that swing -/

namespace Pendulum

/-- The Student quantile with one degree of freedom at three quarters, the only one that is asked. -/
abbrev distributions : Distributions Float := ⟨fun _ _ _ => 0, fun _ _ => 1⟩

def region : Region Float := ⟨0.6, 0.4⟩

def params : Params Float :=
  { Params.default with alpha := 0.5, beta := 0.5, delta := 0.6, fixedSampleSize := 1 }

def fixedTest : ThresholdTest Float := .fixed ⟨region, 1, ∅, none⟩

theorem create_fixed :
    let _ := distributions
    ThresholdTest.create .fixed region params = .ok fixedTest := by
  intro _
  have hadmits : region.theta1 ≤ region.theta0 ∧ 0 < 1 := by decide +kernel
  exact map_eq_ok_iff.2 ⟨_, FixedTest.create_eq_ok.2 ⟨hadmits, rfl⟩, rfl⟩

/-- A negative observation decides, and positive ones do not change the verdict any more. -/
theorem verdict_latched_of_isDone_pendulum :
    let _ := distributions
    (fixedTest.pushAll [false]).isDone = true ∧ (fixedTest.pushAll [false]).accepts = false ∧
      (fixedTest.pushAll ([false] ++ [true, true])).isDone = true ∧
      (fixedTest.pushAll ([false] ++ [true, true])).accepts = false ∧
      (fixedTest.pushAll ([false] ++ [true, true])).sample.count = 3 := by
  intro _
  have hdone : (fixedTest.pushAll [false]).isDone = true := by decide +kernel
  have haccepts : (fixedTest.pushAll [false]).accepts = false := by decide +kernel
  obtain ⟨hdone', -, hcount, hverdict, -⟩ :=
    ThresholdTest.verdict_latched_of_isDone create_fixed [false] [true, true] hdone
  exact ⟨hdone, haccepts, hdone', (hverdict (by decide)).trans haccepts, hcount⟩

def intervalTest : ThresholdTest Float :=
  .interval ⟨region, params.delta, Scalar.least params.alpha params.beta, ∅, Scalar.infinity, 0, false⟩

theorem create_interval :
    let _ := distributions
    ThresholdTest.create .chowRobbins region params = .ok intervalTest := by
  intro _
  have hadmits : region.theta1 ≤ region.theta0 ∧ 0 < params.delta ∧
      Scalar.isOpenUnit (Scalar.least params.alpha params.beta) = true := by decide +kernel
  exact map_eq_ok_iff.2 ⟨_, IntervalTest.create_eq_ok.2 ⟨hadmits, rfl⟩, rfl⟩

/-- A test by an interval accepts after two positive observations, and no longer does so after two
negative ones. -/
theorem interval_verdict_swings :
    let _ := distributions
    ∃ t, ThresholdTest.create .chowRobbins region params = .ok t ∧
      (t.pushAll [true, true]).isDone = true ∧ (t.pushAll [true, true]).accepts = true ∧
      (t.pushAll [true, true, false, false]).isDone = true ∧
      (t.pushAll [true, true, false, false]).accepts = false := by
  exact ⟨intervalTest, create_interval, by decide +kernel⟩

end Pendulum

end SimCheck
