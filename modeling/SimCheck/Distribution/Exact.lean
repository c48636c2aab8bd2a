import Mathlib.Algebra.BigOperators.Group.Finset.Basic
import SimCheck.Scalar.Exact
import SimCheck.Distribution.Basic

/-!
# Distribution functions in exact arithmetic

* `Exact.binomialTail` is `P(X ≤ k)` for a binomial distribution;
* `Distributions.HasBinomialTails` says that binomial probabilities are these;
* `Distributions.IsExact` says what tests rely on: that binomial probabilities are these, and that
  the quantiles of the Student distribution do not decrease and are positive above the median, which
  is zero.
-/

namespace SimCheck

namespace Exact

/-- The probability of exactly `i` successes in `n` trials with success probability `p`. -/
noncomputable def binomialMass (i n : ℕ) (p : ℝ) : ℝ := n.choose i * p ^ i * (1 - p) ^ (n - i)

/-- The probability of at most `k` successes in `n` trials with success probability `p`. -/
noncomputable def binomialTail (k n : ℕ) (p : ℝ) : ℝ :=
  ∑ i ∈ Finset.range (k + 1), binomialMass i n p

end Exact

/-- Binomial probabilities with the values of exact arithmetic. -/
def Distributions.HasBinomialTails [Distributions EReal] : Prop :=
  ∀ (k n : ℕ) (p : ℝ), 0 ≤ p → p ≤ 1 →
    Distributions.binomial k n (p : EReal) = (Exact.binomialTail k n p : EReal)

/-- Distribution functions with the values of exact arithmetic, as far as tests rely on them. -/
structure Distributions.IsExact [Distributions EReal] : Prop where
  binomial : ∀ (k n : ℕ) (p : ℝ), 0 ≤ p → p ≤ 1 →
    Distributions.binomial k n (p : EReal) = (Exact.binomialTail k n p : EReal)
  /-- The Student quantile does not decrease with the probability. -/
  student_mono : ∀ freedom p p' : EReal, 1 / 2 < p → p ≤ p' → p' < 1 →
    Distributions.studentQuantile freedom p ≤ Distributions.studentQuantile freedom p'
  student_pos : ∀ freedom p : EReal, 1 / 2 < p → p < 1 →
    0 < Distributions.studentQuantile freedom p

end SimCheck
