import Mathlib.Data.List.Induction
import Mathlib.Data.List.Infix
import SimCheck.Proofs.Test.Latch

/-!
# Starting over from a sample

A checker that kept the sample of an earlier check starts its test over from that sample and then goes
on observing.

* `resume_push`, `create_push`: an undecided test that has started over, and a new test, take an
  observation as if they started over from the larger sample;
* `pushAll_eq_resume`: hence a test that starts over from the sample of its observations is in the
  state that they brought it to one by one, unless some of them alone would have decided it.
-/

namespace SimCheck

variable {R : Type} [Scalar R]

/-! ### One observation more -/

namespace FixedTest

theorem push_of_none {t : FixedTest R} (h : t.verdict = none) (b : Bool) :
    t.push b = t.resume (t.sample.pushBool b) := by
  simp [push, resume, update, h]

theorem resume_resume (t : FixedTest R) (s s' : Sample R) :
    (t.resume s).resume s' = t.resume s' := rfl

end FixedTest

namespace SingleSamplingTest

theorem push_of_none {t : SingleSamplingTest R} (h : t.verdict = none) (b : Bool) :
    t.push b = t.resume (t.sample.pushBool b) := by
  simp [push, resume, update, h]

theorem resume_resume (t : SingleSamplingTest R) (s s' : Sample R) :
    (t.resume s).resume s' = t.resume s' := rfl

end SingleSamplingTest

namespace RatioTest

theorem push_of_none {t : RatioTest R} (h : t.verdict = none) (b : Bool) :
    t.push b = t.resume (t.sample.pushBool b) := by
  simp [push, resume, update, h]

theorem resume_resume (t : RatioTest R) (s s' : Sample R) :
    (t.resume s).resume s' = t.resume s' := rfl

end RatioTest

namespace IntervalEstimate

variable [Distributions R]

/-- An estimator that the stopping rule has not been evaluated for shows neither side of it. -/
def Blank (e : IntervalEstimate R) : Prop :=
  e.sample.count < 2 → e.spread = Scalar.infinity ∧ e.limit = 0

omit [Distributions R] in
theorem create_blank {delta alpha : R} : Blank ⟨delta, alpha, ∅, Scalar.infinity, 0, false⟩ :=
  fun _ => ⟨rfl, rfl⟩

theorem resume_blank (e : IntervalEstimate R) (s : Sample R) : (e.resume s).Blank := by
  intro hcount
  have hcount : s.count < 2 := by simpa [resume, sample_update] using hcount
  simp [resume, update, hcount]

theorem push_of_not_done {e : IntervalEstimate R} (h : e.done = false) (hblank : e.Blank) (x : R) :
    e.push x = e.resume (e.sample.push x) := by
  by_cases hcount : e.sample.count + 1 < 2
  · obtain ⟨hspread, hlimit⟩ := hblank (by omega)
    simp [push, resume, update, hcount, h, hspread, hlimit]
  · simp [push, resume, update, hcount, h]

theorem resume_resume (e : IntervalEstimate R) (s s' : Sample R) :
    (e.resume s).resume s' = e.resume s' := by
  simp [resume, delta_update, alpha_update]

end IntervalEstimate

/-! ### Any test -/

namespace ThresholdTest

variable [Distributions R] {t : ThresholdTest R}

omit [Distributions R] in
/-- A test by an interval shows no side of the stopping rule before it has evaluated it. -/
def Blank : ThresholdTest R → Prop
  | fixed _ | singleSampling _ | ratio _ => True
  | interval t => t.estimate.Blank

theorem create_blank {algorithm : ThresholdAlgorithm} {region : Region R} {p : Params R}
    (h : create algorithm region p = .ok t) : t.Blank := by
  cases algorithm with
  | fixed =>
    obtain ⟨t, -, rfl⟩ := map_eq_ok_iff.1 h
    trivial
  | ssp =>
    obtain ⟨t, -, rfl⟩ := map_eq_ok_iff.1 h
    trivial
  | sprt =>
    obtain ⟨t, -, rfl⟩ := map_eq_ok_iff.1 h
    trivial
  | chowRobbins =>
    obtain ⟨t, ht, rfl⟩ := map_eq_ok_iff.1 h
    obtain ⟨-, rfl⟩ := IntervalTest.create_eq_ok.1 ht
    exact IntervalEstimate.create_blank

theorem resume_blank (t : ThresholdTest R) (s : Sample R) : (t.resume s).Blank := by
  cases t with
  | fixed t => trivial
  | singleSampling t => trivial
  | ratio t => trivial
  | interval t => exact t.estimate.resume_blank s

/-- Only the last sample that a test starts over from counts. -/
theorem resume_resume (t : ThresholdTest R) (s s' : Sample R) :
    (t.resume s).resume s' = t.resume s' := by
  cases t with
  | fixed t => rfl
  | singleSampling t => rfl
  | ratio t => exact congrArg ratio (t.resume_resume s s')
  | interval t =>
    simp only [resume, IntervalTest.resume, IntervalEstimate.resume_resume]

/-- A test without a verdict takes an observation as if it started over from the larger sample. -/
theorem push_eq_resume (h : t.isDone = false) (hblank : t.Blank) (b : Bool) :
    t.push b = t.resume (t.sample.pushBool b) := by
  cases t with
  | fixed t =>
    have hnone : t.verdict = none := by simpa [isDone] using h
    exact congrArg fixed (t.push_of_none hnone b)
  | singleSampling t =>
    have hnone : t.verdict = none := by simpa [isDone] using h
    exact congrArg singleSampling (t.push_of_none hnone b)
  | ratio t =>
    have hnone : t.verdict = none := by simpa [isDone] using h
    exact congrArg ratio (t.push_of_none hnone b)
  | interval t =>
    simp only [push, resume, IntervalTest.push, IntervalTest.resume,
      IntervalEstimate.push_of_not_done h hblank]
    rfl

theorem resume_push {s : Sample R} (h : (t.resume s).isDone = false) (b : Bool) :
    (t.resume s).push b = t.resume (s.pushBool b) := by
  rw [push_eq_resume h (t.resume_blank s), sample_resume, resume_resume]

/-! ### Any number of observations -/

/-- **A test that starts over from the sample of its observations is in the state that they would have
brought it to one by one**, with the statistic and the sides of the stopping rule, and goes on alike,
unless some of them alone would have decided it. -/
theorem pushAll_eq_resume {algorithm : ThresholdAlgorithm} {region : Region R} {p : Params R}
    (hcreate : create algorithm region p = .ok t) {bs : List Bool} (hne : bs ≠ [])
    (hundecided : ∀ cs, cs ≠ [] → cs <+: bs → cs ≠ bs →
      (t.resume (Sample.ofBools cs)).isDone = false) :
    t.pushAll bs = t.resume (Sample.ofBools bs) ∧
      ∀ ds, (t.pushAll (bs ++ ds)).isDone = ((t.resume (Sample.ofBools bs)).pushAll ds).isDone ∧
        (t.pushAll (bs ++ ds)).accepts = ((t.resume (Sample.ofBools bs)).pushAll ds).accepts := by
  have hstate : t.pushAll bs = t.resume (Sample.ofBools bs) := by
    induction bs using List.reverseRecOn with
    | nil => exact absurd rfl hne
    | append_singleton bs b ih =>
      have hproper : bs <+: bs ++ [b] ∧ bs ≠ bs ++ [b] := by simp
      have hsample : (Sample.ofBools (bs ++ [b]) : Sample R) = (Sample.ofBools bs).pushBool b :=
        Sample.ofBools_append bs [b]
      rw [pushAll_append, pushAll_cons, pushAll_nil, hsample]
      by_cases hempty : bs = []
      · subst hempty
        obtain ⟨hdone, hstart⟩ := create_undecided hcreate
        rw [pushAll_nil, push_eq_resume hdone (create_blank hcreate), hstart]
        rfl
      · have hpart : t.pushAll bs = t.resume (Sample.ofBools bs) := by
          refine ih hempty fun cs hcs hle hlt => hundecided cs hcs (hle.trans hproper.1) ?_
          rintro rfl
          exact hlt (hle.eq_of_length_le (by simp))
        rw [hpart, resume_push (hundecided bs hempty hproper.1 hproper.2)]
  exact ⟨hstate, fun ds => by rw [pushAll_append, hstate]; exact ⟨rfl, rfl⟩⟩

end ThresholdTest

/-! ### Two observations that do not decide, and a third that does -/

namespace Pendulum

/-- A positive and a negative observation leave a test by an interval undecided; the third decides, and
the test that starts over from all three is in the same state. -/
theorem pushAll_eq_resume_pendulum :
    let _ := distributions
    (intervalTest.resume (Sample.ofBools [true])).isDone = false ∧
      (intervalTest.resume (Sample.ofBools [true, false])).isDone = false ∧
      (intervalTest.resume (Sample.ofBools [true, false, true])).isDone = true ∧
      intervalTest.pushAll [true, false, true]
        = intervalTest.resume (Sample.ofBools [true, false, true]) := by
  intro _
  have hundecided : ∀ cs ∈ [true, false, true].inits, cs ≠ [] → cs ≠ [true, false, true] →
      (intervalTest.resume (Sample.ofBools cs)).isDone = false := by decide +kernel
  have hstate := ThresholdTest.pushAll_eq_resume create_interval (List.cons_ne_nil true [false, true])
    fun cs hne hpart => hundecided cs ((List.mem_inits _ _).2 hpart) hne
  exact ⟨by decide +kernel, by decide +kernel, by decide +kernel, hstate.1⟩

end Pendulum

end SimCheck
