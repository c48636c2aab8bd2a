import SimCheck.Proofs.Test.Plan
import SimCheck.Proofs.Test.Verdict

/-!
# Quotas of threshold tests

A fixed test and a single sampling test have a verdict after a number of observations that is known
when they are created, whatever is observed.  Where they start over from a sample, the observations in
it count; a sample that is larger than the quota decides at once.

* `ThresholdTest.quota?` is that number;
* `ThresholdTest.Limited`: while the test is not done, its sample is smaller than the quota;
* `Params.Affords fuel`: tests with these parameters have a quota within `fuel`;
* `Params.Affords.create`: new tests are limited, and so are they when they start over or go on.
-/

namespace SimCheck

variable {R : Type}

namespace ThresholdTest

/-- The number of observations after which the test has a verdict, if it does not depend on them. -/
def quota? : ThresholdTest R → Option ℕ
  | fixed t => some t.size
  | singleSampling t => some t.plan.n
  | ratio _ | interval _ => none

/-- The test has a quota, and has not observed so much if it is not done. -/
structure Limited (t : ThresholdTest R) (quota : ℕ) : Prop where
  quota_eq : t.quota? = some quota
  room : t.isDone = false → t.sample.count < quota

variable [Scalar R] {t : ThresholdTest R} {quota : ℕ}

theorem quota?_push (t : ThresholdTest R) [Distributions R] (b : Bool) :
    (t.push b).quota? = t.quota? := by
  cases t <;> rfl

theorem quota?_resume (t : ThresholdTest R) [Distributions R] (s : Sample R) :
    (t.resume s).quota? = t.quota? := by
  cases t <;> rfl

variable [Distributions R]

/-- A sample that fills the quota decides. -/
theorem count_lt_of_judge_eq_none (hquota : t.quota? = some quota) {s : Sample R}
    (h : t.judge s = none) : s.count < quota := by
  cases t with
  | fixed t =>
    obtain rfl : t.size = quota := Option.some_inj.1 hquota
    have hnone : FixedTest.judge t.region t.size s = none := h
    unfold FixedTest.judge at hnone
    split_ifs at hnone with hsize
    exact Nat.not_le.1 hsize
  | singleSampling t =>
    obtain rfl : t.plan.n = quota := Option.some_inj.1 hquota
    have hnone : SingleSamplingTest.judge t.plan s = none := h
    unfold SingleSamplingTest.judge SingleSamplingTest.settled at hnone
    -- Where no observation is missing, there are enough positive ones or there are not.
    split_ifs at hnone with haccepts hrejects
    omega
  | ratio t => cases hquota
  | interval t => cases hquota

namespace Limited

theorem resume (hquota : t.quota? = some quota) (s : Sample R) : (t.resume s).Limited quota where
  quota_eq := (t.quota?_resume s).trans hquota
  room hopen := by
    rw [sample_resume]
    have hnone := verdict?_eq_none.2 hopen
    rw [verdict?_resume] at hnone
    exact count_lt_of_judge_eq_none hquota hnone

theorem push (h : t.Limited quota) (hopen : t.isDone = false) (b : Bool) :
    (t.push b).Limited quota where
  quota_eq := (t.quota?_push b).trans h.quota_eq
  room hopen' := by
    have hnone := verdict?_eq_none.2 hopen'
    rw [verdict?_push hopen] at hnone
    exact count_lt_of_judge_eq_none h.quota_eq hnone

end Limited

end ThresholdTest

/-! ### Tests that are created -/

/-- Every test that is created with the parameters has a quota, which is at most `fuel`. -/
def Params.Affords (p : Params R) (fuel : ℕ) : Prop :=
  match p.thresholdAlgorithm with
  | .fixed => p.fixedSampleSize ≤ fuel
  | .ssp => 2 ^ Plan.maxDoublings ≤ fuel
  | .sprt | .chowRobbins => False

variable [Scalar R] [Distributions R] {p : Params R} {fuel : ℕ} {t : ThresholdTest R}

/-- **A new test is limited**, by the size in the parameters if it is a fixed one. -/
theorem Params.Affords.create (h : p.Affords fuel) {region : Region R}
    (ht : ThresholdTest.create p.thresholdAlgorithm region p = .ok t) :
    ∃ quota ≤ fuel, t.Limited quota ∧
      (p.thresholdAlgorithm = .fixed → quota = p.fixedSampleSize) := by
  unfold Params.Affords at h
  cases halgorithm : p.thresholdAlgorithm with
  | fixed =>
    rw [halgorithm] at h ht
    obtain ⟨new, hnew, rfl⟩ := map_eq_ok_iff.1 ht
    obtain ⟨⟨-, hsize⟩, rfl⟩ := FixedTest.create_eq_ok.1 hnew
    exact ⟨p.fixedSampleSize, h, ⟨rfl, fun _ => hsize⟩, fun _ => rfl⟩
  | ssp =>
    rw [halgorithm] at h ht
    obtain ⟨new, hnew, rfl⟩ := map_eq_ok_iff.1 ht
    obtain ⟨plan, hplan, rfl⟩ := SingleSamplingTest.create_eq_ok.1 hnew
    obtain ⟨hpos, hle⟩ := Plan.size_mem hplan
    exact ⟨plan.n, hle.trans h, ⟨rfl, fun _ => hpos⟩, fun heq => nomatch heq⟩
  | sprt =>
    rw [halgorithm] at h
    exact h.elim
  | chowRobbins =>
    rw [halgorithm] at h
    exact h.elim

end SimCheck
