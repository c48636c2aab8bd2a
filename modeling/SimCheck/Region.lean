import SimCheck.Scalar.Basic

/-!
# Indifference regions

A test decides between `p ≥ theta0` and `p ≤ theta1`; in between either verdict will do.
`Region.around` is the region around a bound, narrowed by the error with which a nested check
answers for a path.
-/

namespace SimCheck

/-- The two probabilities a test tells apart. -/
structure Region (R : Type) where
  /-- The least probability of the hypothesis that the threshold holds. -/
  theta0 : R
  /-- The largest probability of the hypothesis that it fails. -/
  theta1 : R

namespace Region

variable {R : Type} [Scalar R]

/-- The region of half-width `delta` around `theta` for observations that are wrong with
probability at most `nested`, clamped to probabilities. -/
def around (theta delta nested : R) : Region R where
  theta0 := Scalar.least ((theta + delta) * (1 - nested)) 1
  theta1 := Scalar.greatest (1 - (1 - (theta - delta)) * (1 - nested)) 0

/-- The middle of the region. -/
def middle (r : Region R) : R := 0.5 * (r.theta0 + r.theta1)

/-- Whether `0 ≤ theta1 < theta0 ≤ 1`. -/
def isProper (r : Region R) : Bool :=
  decide (0 ≤ r.theta1) && decide (r.theta1 < r.theta0) && decide (r.theta0 ≤ 1)

end Region

end SimCheck
