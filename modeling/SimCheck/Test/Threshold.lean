import SimCheck.Test.Fixed
import SimCheck.Test.Interval
import SimCheck.Test.Ratio
import SimCheck.Test.SingleSampling

/-!
# Threshold tests

`ThresholdTest` is the test that an algorithm selects.  All tests are driven in the same way:
observations are pushed until the test is done, or it starts over from a sample; then the verdict is
read off.
-/

namespace SimCheck

/-- One of the four tests. -/
inductive ThresholdTest (R : Type)
  | fixed (t : FixedTest R)
  | singleSampling (t : SingleSamplingTest R)
  | ratio (t : RatioTest R)
  | interval (t : IntervalTest R)

namespace ThresholdTest

variable {R : Type}

/-- The observations so far. -/
def sample : ThresholdTest R → Sample R
  | fixed t => t.sample
  | singleSampling t => t.sample
  | ratio t => t.sample
  | interval t => t.estimate.sample

/-- Whether a verdict has been reached. -/
def isDone : ThresholdTest R → Bool
  | fixed t => t.verdict.isSome
  | singleSampling t => t.verdict.isSome
  | ratio t => t.verdict.isSome
  | interval t => t.estimate.done

variable [Scalar R]

/-- The verdict; it has a meaning only once the test is done. -/
def accepts : ThresholdTest R → Bool
  | fixed t => t.verdict.getD false
  | singleSampling t => t.verdict.getD false
  | ratio t => t.verdict.getD false
  | interval t => t.accepts

variable [Distributions R]

/-- The test an algorithm selects for a region, with bounds and sizes from the parameters. -/
def create (algorithm : ThresholdAlgorithm) (region : Region R) (p : Params R) :
    Except (Fault R) (ThresholdTest R) :=
  match algorithm with
  | .fixed => (FixedTest.create region p.fixedSampleSize).map fixed
  | .ssp => (SingleSamplingTest.create region p.bounds).map singleSampling
  | .sprt => (RatioTest.create region p.bounds).map ratio
  | .chowRobbins =>
    (IntervalTest.create region p.delta (Scalar.least p.alpha p.beta)).map interval

/-- Adds an observation. -/
def push (t : ThresholdTest R) (b : Bool) : ThresholdTest R :=
  match t with
  | fixed t => fixed (t.push b)
  | singleSampling t => singleSampling (t.push b)
  | ratio t => ratio (t.push b)
  | interval t => interval (t.push b)

/-- Starts over from a sample. -/
def resume (t : ThresholdTest R) (s : Sample R) : ThresholdTest R :=
  match t with
  | fixed t => fixed (t.resume s)
  | singleSampling t => singleSampling (t.resume s)
  | ratio t => ratio (t.resume s)
  | interval t => interval (t.resume s)

/-- Adds a list of observations. -/
def pushAll (t : ThresholdTest R) (bs : List Bool) : ThresholdTest R := bs.foldl push t

end ThresholdTest

end SimCheck
