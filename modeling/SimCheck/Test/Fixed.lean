import SimCheck.Fault
import SimCheck.Region
import SimCheck.Sample

/-!
# The fixed test

Decides after a fixed number of observations by comparing their mean with the middle of the region.
It carries no guarantee.

* `FixedTest.judge` is the decision as a function of the sample;
* `FixedTest.push` and `FixedTest.resume` keep the sample and the first verdict.
-/

namespace SimCheck

/-- A test over a fixed number of observations. -/
structure FixedTest (R : Type) where
  region : Region R
  /-- The number of observations after which the test decides. -/
  size : Nat
  sample : Sample R
  verdict : Option Bool

namespace FixedTest

variable {R : Type} [Scalar R]

/-- A test without observations.  The region must not be inverted and the size not be zero. -/
def create (region : Region R) (size : Nat) : Except (Fault R) (FixedTest R) :=
  if region.theta1 ≤ region.theta0 then
    if 0 < size then .ok ⟨region, size, ∅, none⟩ else .error .zeroSampleSize
  else .error (.invertedRegion region.theta1 region.theta0)

/-- The verdict on a sample, once it is large enough. -/
def judge (region : Region R) (size : Nat) (s : Sample R) : Option Bool :=
  if size ≤ s.count then some (decide (region.middle < s.mean)) else none

/-- Decides, unless a verdict has been reached before. -/
def update (t : FixedTest R) : FixedTest R :=
  { t with verdict := t.verdict.or (judge t.region t.size t.sample) }

/-- Adds an observation. -/
def push (t : FixedTest R) (b : Bool) : FixedTest R :=
  { t with sample := t.sample.pushBool b }.update

/-- Starts over from a sample. -/
def resume (t : FixedTest R) (s : Sample R) : FixedTest R :=
  { t with sample := s, verdict := none }.update

end FixedTest

end SimCheck
