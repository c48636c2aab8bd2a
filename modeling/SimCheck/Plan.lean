import SimCheck.Binomial
import SimCheck.Params
import SimCheck.Region

/-!
# Single sampling plans

A plan `(n, c)` draws `n` observations and accepts when more than `c` of them are positive.

* `Plan.acceptance` is the smallest `c` that keeps the second error at size `n`, if it keeps the
  first one as well;
* `Plan.create` doubles the size until there is one, then bisects for the smallest size.
-/

namespace SimCheck

/-- A number of observations, and the number of positives that must be exceeded. -/
structure Plan where
  n : Nat
  c : Int

namespace Plan

/-- The size beyond which no plan is looked for is two to this power. -/
def maxDoublings : Nat := 40

variable {R : Type} [Scalar R] [Distributions R]

/-- The acceptance number of a plan of size `n` that keeps both error bounds. -/
def acceptance (r : Region R) (b : ErrorBounds R) (n : Nat) : Option Int :=
  let c := Binomial.quantile (1 - b.beta) n r.theta1
  if c ≤ Binomial.quantile b.alpha n r.theta0 - 1 then some c else none

/-- The first power of two that is the size of a plan. -/
def firstPower? (r : Region R) (b : ErrorBounds R) : Option Nat :=
  ((List.range (maxDoublings + 1)).map (Nat.pow 2)).find? fun n => (acceptance r b n).isSome

/-- The smallest plan above half of a size at which there is one. -/
def smallest (r : Region R) (b : ErrorBounds R) (hi : Nat) : Plan :=
  let n := bisect (fun n => (acceptance r b n).isSome) (hi / 2 + 1) hi
  ⟨n, (acceptance r b n).getD 0⟩

/-- The smallest plan for a region and error bounds. -/
def create (r : Region R) (b : ErrorBounds R) : Except (Fault R) Plan :=
  if !r.isProper then .error (.emptyPlanRegion r.theta0 r.theta1)
  else if !(Scalar.isOpenUnit b.alpha && Scalar.isOpenUnit b.beta) then
    .error .errorBoundsOutOfRange
  else match firstPower? r b with
    | some hi => .ok (smallest r b hi)
    | none => .error (.noPlan (Nat.pow 2 maxDoublings))

end Plan

end SimCheck
