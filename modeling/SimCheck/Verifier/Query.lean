import SimCheck.Verifier.Check

/-!
# Queries

The calls on a verifier.

* `Verifier.create` starts a verifier whose parameters are valid;
* `Session.verify` decides a property, `Session.estimate` estimates the probability of a path
  property, both with a source of observations and fresh statistics;
* `Session.samplePath` simulates one path and leaves the source alone;
* `Verifier.release` and `Verifier.clearCache` drop stored samples.
-/

namespace SimCheck

/-- Why a query is refused. -/
inductive QueryError (R : Type)
  /-- The parameters are not valid. -/
  | params (e : ParamsError R)
  /-- An estimate needs an interval of positive width. -/
  | estimationWithoutDelta (delta : R)

/-- The answer to a query for a probability. -/
structure Estimate (R : Type) where
  mean : R
  halfWidth : R
  sampleSize : Nat

namespace Verifier

variable {R G : Type}

/-- A verifier with an empty cache. -/
def create [Scalar R] (params : Params R) (generator : G) :
    Except (QueryError R) (Verifier R G) := do
  params.validate.mapError .params
  return ⟨params, generator, ∅, ∅, 0, []⟩

/-- Drops the stored samples of a path property. -/
def release (v : Verifier R G) (id : PropertyId) : Verifier R G :=
  { v with cache := v.cache.release id }

/-- Drops all stored samples. -/
def clearCache (v : Verifier R G) : Verifier R G := { v with cache := ∅ }

end Verifier

namespace Session

variable {R G S : Type} [Scalar R] [Distributions R]

/-- Decides a property in a state. -/
def verify (sim : Simulator R G) (src : SampleSource R S) (p : Property R) (s : State R) :
    Run R (Session R G S) Bool := do
  Run.modifyVerifier fun v => { v with stats := ∅, level := 0 }
  check sim src p s

/-- Feeds an estimator until it is done, at most `fuel` observations. -/
def estimateUntilDone (src : SampleSource R S) (path : Run R (Session R G Unit) Bool) :
    (fuel : Nat) → IntervalEstimate R → Run R (Session R G S) (IntervalEstimate R)
  | 0, e => if e.done then return e else throw .outOfFuel
  | fuel + 1, e => do
    if e.done then return e
    let b ← Run.draw src path
    estimateUntilDone src path fuel (e.push (Scalar.ofBool b))

/-- Draws a number of observations. -/
def drawSample (src : SampleSource R S) (path : Run R (Session R G Unit) Bool) :
    Nat → Sample R → Run R (Session R G S) (Sample R)
  | 0, s => return s
  | n + 1, s => do
    let b ← Run.draw src path
    drawSample src path n (s.pushBool b)

/-- The estimate by the configured algorithm. -/
def runEstimate (sim : Simulator R G) (src : SampleSource R S) (p : Params R)
    (path : Run R (Session R G Unit) Bool) : Run R (Session R G S) (Estimate R) := do
  match p.estimationAlgorithm with
  | .chowRobbins =>
    let e ← Run.ofExcept (IntervalEstimate.create p.delta p.alpha)
    let e ← estimateUntilDone src path sim.fuel e
    Run.report (.estimateFinished e)
    return ⟨e.mean, e.delta, e.sample.count⟩
  | .chernoff =>
    let size ← Run.ofExcept (chernoffSize p.delta p.alpha)
    let sample ← drawSample src path size ∅
    return ⟨sample.mean, p.delta, size⟩

/-- Estimates the probability that a path from a state satisfies a path property. -/
def estimate (sim : Simulator R G) (src : SampleSource R S) (path : PathProperty R)
    (s : State R) : Run R (Session R G S) (Except (QueryError R) (Estimate R)) := do
  let p ← Run.params
  if p.delta ≤ 0 then return .error (.estimationWithoutDelta p.delta)
  let u := path.checks sim
  Run.modifyVerifier fun v => { v with stats := ∅, level := 1 }
  Run.beginRun src u.id s
  let e ← runEstimate sim src p (simulate sim u s (u.nestedError p))
  Run.endRun src u.id
  Run.modifyVerifier fun v => { v with level := 0 }
  Run.modifyStats fun stats =>
    { stats with sampleSize := stats.sampleSize.push (e.sampleSize : R) }
  return .ok e

/-- Simulates one path and says whether it satisfies the path property. -/
def samplePath (sim : Simulator R G) (path : PathProperty R) (s : State R) :
    Run R (Session R G S) Bool := do
  let u := path.checks sim
  let nested := u.nestedError (← Run.params)
  Run.nested (Run.locally (simulate sim u s nested))

end Session

end SimCheck
