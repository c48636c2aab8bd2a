import SimCheck.Distribution.Basic
import SimCheck.Fault
import SimCheck.Region
import SimCheck.Sample

/-!
# Fixed-width intervals

* `IntervalEstimate` is the sequential estimator that stops, after at least two observations, at the
  first `n` with `1/n + s² ≤ n δ² / a²`, where `s²` is the unbiased variance and `a` the quantile of
  the Student distribution with `n - 1` degrees of freedom at `1 - α/2`;
* `IntervalTest` decides a threshold by comparing the estimate with the middle of the region;
* `chernoffSize` is the number of observations after which the mean is within `δ` of the truth with
  probability at least `1 - α`, by the exponential bound.
-/

namespace SimCheck

/-- A sequential estimator with a fixed half-width. -/
structure IntervalEstimate (R : Type) where
  /-- The half-width of the interval. -/
  delta : R
  /-- The probability that the interval misses the truth. -/
  alpha : R
  sample : Sample R
  /-- The left side of the stopping rule when it was last evaluated. -/
  spread : R
  /-- The right side of the stopping rule when it was last evaluated. -/
  limit : R
  done : Bool

section

variable {R : Type} [Scalar R]

/-- Refuses a half-width that is not positive and an error that is not in the open unit interval. -/
def checkInterval (delta alpha : R) : Except (Fault R) Unit :=
  if 0 < delta then
    if Scalar.isOpenUnit alpha then .ok () else .error (.errorOutOfRange alpha)
  else .error (.nonPositiveWidth delta)

/-- The size of a sample whose mean is close enough, by the exponential bound. -/
def chernoffSize (delta alpha : R) : Except (Fault R) Nat :=
  (checkInterval delta alpha).map fun _ =>
    Scalar.ceil (Scalar.ln (2.0 / alpha) / (2.0 * delta * delta))

end

namespace IntervalEstimate

variable {R : Type} [Scalar R]

/-- The estimator without observations. -/
def create (delta alpha : R) : Except (Fault R) (IntervalEstimate R) :=
  (checkInterval delta alpha).map fun _ => ⟨delta, alpha, ∅, Scalar.infinity, 0, false⟩

/-- The point estimate. -/
def mean (e : IntervalEstimate R) : R := e.sample.mean

/-- The left side of the stopping rule. -/
def spreadOf (s : Sample R) : R := 1 / (s.count : R) + s.unbiasedVariance

variable [Distributions R]

/-- The right side of the stopping rule. -/
def limitOf (delta alpha : R) (count : Nat) : R :=
  let n := (count : R)
  let a := Distributions.studentQuantile (n - 1) (1 - 0.5 * alpha)
  n * delta * delta / (a * a)

/-- Evaluates the stopping rule, unless it has been met or there are fewer than two observations. -/
def update (e : IntervalEstimate R) : IntervalEstimate R :=
  if e.done || decide (e.sample.count < 2) then e
  else
    let spread := spreadOf e.sample
    let limit := limitOf e.delta e.alpha e.sample.count
    { e with spread, limit, done := decide (spread ≤ limit) }

/-- Adds an observation. -/
def push (e : IntervalEstimate R) (x : R) : IntervalEstimate R :=
  { e with sample := e.sample.push x }.update

/-- Starts over from a sample. -/
def resume (e : IntervalEstimate R) (s : Sample R) : IntervalEstimate R :=
  { e with sample := s, spread := Scalar.infinity, limit := 0, done := false }.update

end IntervalEstimate

/-- A test by a fixed-width interval. -/
structure IntervalTest (R : Type) where
  region : Region R
  estimate : IntervalEstimate R

namespace IntervalTest

variable {R : Type} [Scalar R]

/-- A test without observations. -/
def create (region : Region R) (delta alpha : R) : Except (Fault R) (IntervalTest R) :=
  if region.theta1 ≤ region.theta0 then
    (IntervalEstimate.create delta alpha).map fun estimate => ⟨region, estimate⟩
  else .error (.invertedRegion region.theta1 region.theta0)

/-- Whether the mean lies above the middle of the region. -/
def accepts (t : IntervalTest R) : Bool := decide (t.region.middle < t.estimate.mean)

variable [Distributions R]

/-- Adds an observation. -/
def push (t : IntervalTest R) (b : Bool) : IntervalTest R :=
  { t with estimate := t.estimate.push (Scalar.ofBool b) }

/-- Starts over from a sample. -/
def resume (t : IntervalTest R) (s : Sample R) : IntervalTest R :=
  { t with estimate := t.estimate.resume s }

end IntervalTest

end SimCheck
