import SimCheck.Plan
import SimCheck.Sample

/-!
# The single sampling test

Follows a sampling plan `(n, c)` but stops as soon as the outcome is settled: when more than `c`
positives have been seen, or when the observations still missing cannot bring them above `c`.
-/

namespace SimCheck

/-- A curtailed single sampling test. -/
structure SingleSamplingTest (R : Type) where
  region : Region R
  plan : Plan
  sample : Sample R
  verdict : Option Bool

namespace SingleSamplingTest

variable {R : Type} [Scalar R]

/-- A test without observations, for the smallest plan. -/
def create [Distributions R] (region : Region R) (bounds : ErrorBounds R) :
    Except (Fault R) (SingleSamplingTest R) :=
  (Plan.create region bounds).map fun plan => ⟨region, plan, ∅, none⟩

/-- The verdict after `count` observations of which `positives` were positive, once settled. -/
def settled (plan : Plan) (count : Nat) (positives : Int) : Option Bool :=
  if plan.c < positives then some true
  else if positives ≤ (count : Int) + plan.c - plan.n then some false
  else none

/-- The verdict on a sample, once settled. -/
def judge (plan : Plan) (s : Sample R) : Option Bool :=
  settled plan s.count (Scalar.truncate s.sum)

/-- Decides, unless a verdict has been reached before. -/
def update (t : SingleSamplingTest R) : SingleSamplingTest R :=
  { t with verdict := t.verdict.or (judge t.plan t.sample) }

/-- Adds an observation. -/
def push (t : SingleSamplingTest R) (b : Bool) : SingleSamplingTest R :=
  { t with sample := t.sample.pushBool b }.update

/-- Starts over from a sample. -/
def resume (t : SingleSamplingTest R) (s : Sample R) : SingleSamplingTest R :=
  { t with sample := s, verdict := none }.update

end SingleSamplingTest

end SimCheck
