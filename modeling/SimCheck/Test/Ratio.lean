import SimCheck.Fault
import SimCheck.Params
import SimCheck.Region
import SimCheck.Sample

/-!
# The sequential probability ratio test

The statistic is the logarithm of the likelihood of the sample at `theta1` over that at `theta0`.
It is computed anew from the numbers of positives and negatives, so that an infinite coefficient
(`theta1 = 0` or `theta0 = 1`) decides at the first observation of its kind and is never multiplied
by zero.  The test accepts at or below one limit and rejects above another.
-/

namespace SimCheck

/-- The numbers a ratio test derives from its region and error bounds. -/
structure RatioLimits (R : Type) where
  /-- What a positive observation adds to the statistic. -/
  positive : R
  /-- What a negative observation adds to the statistic. -/
  negative : R
  /-- The test accepts at or below this limit. -/
  accept : R
  /-- The test rejects above this limit. -/
  reject : R

namespace RatioLimits

variable {R : Type} [Scalar R]

/-- The coefficients and limits for a region and error bounds. -/
def create (r : Region R) (b : ErrorBounds R) : RatioLimits R where
  positive := if 0 < r.theta1 then Scalar.ln (r.theta1 / r.theta0) else -Scalar.infinity
  negative :=
    if r.theta0 < 1 then Scalar.ln ((1 - r.theta1) / (1 - r.theta0)) else Scalar.infinity
  accept :=
    if r.theta0 < 1 then Scalar.ln b.beta - Scalar.ln (1 - b.alpha) else Scalar.ln b.beta
  reject :=
    if 0 < r.theta1 then -Scalar.ln b.alpha + Scalar.ln (1 - b.beta) else -Scalar.ln b.alpha

/-- The statistic of a sample: the terms of the kinds of observation that occur. -/
def statistic (l : RatioLimits R) (s : Sample R) : R :=
  let positives := s.sum
  let negatives := (s.count : R) - positives
  let ratio : R := 0
  let ratio := if 0 < positives then ratio + positives * l.positive else ratio
  if 0 < negatives then ratio + negatives * l.negative else ratio

/-- The verdict at a value of the statistic, if it is outside the limits. -/
def judge (l : RatioLimits R) (ratio : R) : Option Bool :=
  if ratio ≤ l.accept then some true
  else if l.reject < ratio then some false
  else none

end RatioLimits

/-- A sequential probability ratio test. -/
structure RatioTest (R : Type) where
  region : Region R
  limits : RatioLimits R
  sample : Sample R
  /-- The statistic at the last observation before the verdict. -/
  ratio : R
  verdict : Option Bool

namespace RatioTest

variable {R : Type} [Scalar R]

/-- A test without observations. -/
def create (region : Region R) (bounds : ErrorBounds R) : Except (Fault R) (RatioTest R) :=
  if !region.isProper then .error (.emptyRatioRegion region.theta0 region.theta1)
  else if !(Scalar.isOpenUnit bounds.alpha && Scalar.isOpenUnit bounds.beta) then
    .error .errorBoundsOutOfRange
  else .ok ⟨region, .create region bounds, ∅, 0, none⟩

/-- Computes the statistic and decides, unless a verdict has been reached before. -/
def update (t : RatioTest R) : RatioTest R :=
  match t.verdict with
  | some _ => t
  | none =>
    let ratio := t.limits.statistic t.sample
    { t with ratio, verdict := t.limits.judge ratio }

/-- Adds an observation. -/
def push (t : RatioTest R) (b : Bool) : RatioTest R :=
  { t with sample := t.sample.pushBool b }.update

/-- Starts over from a sample. -/
def resume (t : RatioTest R) (s : Sample R) : RatioTest R :=
  { t with sample := s, ratio := 0, verdict := none }.update

end RatioTest

end SimCheck
