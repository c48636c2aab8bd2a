import SimCheck.Scalar.Basic

/-!
# Distribution functions

The tests rest on two families of distributions.  `Distributions` names what they need of them;
`SimCheck.Distribution.Binary64` computes it in binary64 arithmetic, and a statement in exact
arithmetic is about an instance with the exact values.
-/

namespace SimCheck

/-- The distribution functions that tests and estimates consult. -/
class Distributions (R : Type) where
  /-- The probability of at most `k` successes in `n` trials with success probability `p`, for
  `k < n`. -/
  binomial (k n : Nat) (p : R) : R
  /-- The quantile of the Student distribution with the given degrees of freedom. -/
  studentQuantile (freedom probability : R) : R

end SimCheck
