import SimCheck.Scalar.Basic

/-!
# Parameters of a verification

* `ErrorBounds` is the pair `(α, β)`: the probability of rejecting a property that holds, and of
  accepting one that fails.  The ways in which the connectives divide it are functions on it;
* `Params` holds all parameters, `Params.validate` checks them, and `Params.default` is the set
  that is used where nothing is configured;
* `maxNestedError` is the largest nested error that leaves a region around one half;
  `Params.nestedErrorBound` is the nested error in force.
-/

namespace SimCheck

/-- The bounds on the two errors of a test. -/
structure ErrorBounds (R : Type) where
  /-- The probability of rejecting a property that holds. -/
  alpha : R
  /-- The probability of accepting a property that fails. -/
  beta : R

namespace ErrorBounds

variable {R : Type}

/-- The bounds for the operand of a negation. -/
def swap (b : ErrorBounds R) : ErrorBounds R := ⟨b.beta, b.alpha⟩

/-- The same bound for both errors. -/
def both (a : R) : ErrorBounds R := ⟨a, a⟩

@[simp] theorem swap_swap (b : ErrorBounds R) : b.swap.swap = b := rfl

@[simp] theorem swap_both (a : R) : (both a).swap = both a := rfl

variable [Scalar R]

/-- One of `k` equal shares of `α`, and all of `β`. -/
def shareAlpha (b : ErrorBounds R) (k : Nat) : ErrorBounds R := ⟨b.alpha / (k : R), b.beta⟩

/-- All of `α`, and one of `k` equal shares of `β`. -/
def shareBeta (b : ErrorBounds R) (k : Nat) : ErrorBounds R := ⟨b.alpha, b.beta / (k : R)⟩

/-- One of `k` equal shares of the smaller bound, for both errors. -/
def shareLeast (b : ErrorBounds R) (k : Nat) : ErrorBounds R :=
  both (Scalar.least b.alpha b.beta / (k : R))

theorem swap_shareAlpha (b : ErrorBounds R) (k : Nat) :
    (b.shareAlpha k).swap = b.swap.shareBeta k := rfl

theorem swap_shareBeta (b : ErrorBounds R) (k : Nat) :
    (b.shareBeta k).swap = b.swap.shareAlpha k := rfl

end ErrorBounds

/-- The test that decides a probability threshold. -/
inductive ThresholdAlgorithm
  /-- A fixed number of observations, without a guarantee. -/
  | fixed
  /-- A curtailed single sampling plan. -/
  | ssp
  /-- The sequential probability ratio test. -/
  | sprt
  /-- A fixed-width interval, compared with the middle of the region. -/
  | chowRobbins
  deriving DecidableEq

/-- The algorithm that estimates a probability. -/
inductive EstimationAlgorithm
  | chowRobbins
  | chernoff
  deriving DecidableEq

/-- The parameters of a verification. -/
structure Params (R : Type) where
  alpha : R
  beta : R
  /-- The half-width of the indifference region around a bound. -/
  delta : R
  /-- The precision of exact engines; unused here. -/
  epsilon : R
  /-- The error of nested checks; derived from `delta` where it is absent. -/
  nestedError : Option R
  /-- The number of observations of the fixed test. -/
  fixedSampleSize : Nat
  /-- The number of transitions after which a path is cut off. -/
  maxPathLength : Option Nat
  /-- Whether samples are kept for later tests of the same path from the same values. -/
  memoization : Bool
  thresholdAlgorithm : ThresholdAlgorithm
  estimationAlgorithm : EstimationAlgorithm

/-- Why parameters are refused. -/
inductive ParamsError (R : Type)
  | alphaOutOfRange (value : R)
  | betaOutOfRange (value : R)
  | negativeDelta (value : R)
  /-- Only the fixed test can do without an indifference region. -/
  | emptyRegion (algorithm : ThresholdAlgorithm)
  | nonPositiveEpsilon (value : R)
  | zeroSampleSize
  | nestedErrorOutOfRange (value max : R)

variable {R : Type} [Scalar R]

/-- The largest nested error for which the indifference region around one half is not empty. -/
def maxNestedError (delta : R) : R :=
  if 0 < delta then delta / (0.5 + delta) else 0

namespace Params

/-- The parameters used where nothing is configured. -/
def default : Params R where
  alpha := 0.01
  beta := 0.01
  delta := 0.01
  epsilon := 0.000001
  nestedError := none
  fixedSampleSize := 1000
  maxPathLength := none
  memoization := false
  thresholdAlgorithm := .sprt
  estimationAlgorithm := .chowRobbins

/-- Whether two sets of parameters are equal, as far as numbers that compare equal are. -/
def same (p q : Params R) : Bool :=
  p.alpha == q.alpha && p.beta == q.beta && p.delta == q.delta && p.epsilon == q.epsilon
    && p.nestedError == q.nestedError && p.fixedSampleSize == q.fixedSampleSize
    && p.maxPathLength == q.maxPathLength && p.memoization == q.memoization
    && p.thresholdAlgorithm == q.thresholdAlgorithm
    && p.estimationAlgorithm == q.estimationAlgorithm

omit [Scalar R] in
/-- The error bounds in force. -/
def bounds (p : Params R) : ErrorBounds R := ⟨p.alpha, p.beta⟩

omit [Scalar R] in
/-- The parameters with other error bounds. -/
def withBounds (p : Params R) (b : ErrorBounds R) : Params R :=
  { p with alpha := b.alpha, beta := b.beta }

/-- The nested error in force: the configured one, or four fifths of the largest. -/
def nestedErrorBound (p : Params R) : R :=
  p.nestedError.getD (0.8 * maxNestedError p.delta)

/-- Refuses parameters that no test can work with.  The first offence counts. -/
def validate (p : Params R) : Except (ParamsError R) Unit := do
  if !Scalar.isOpenUnit p.alpha then throw (.alphaOutOfRange p.alpha)
  if !Scalar.isOpenUnit p.beta then throw (.betaOutOfRange p.beta)
  if Scalar.isNaN p.delta || decide (p.delta < 0) then throw (.negativeDelta p.delta)
  if p.delta == 0 && p.thresholdAlgorithm != .fixed then throw (.emptyRegion p.thresholdAlgorithm)
  if !decide (0 < p.epsilon) then throw (.nonPositiveEpsilon p.epsilon)
  if p.fixedSampleSize = 0 then throw .zeroSampleSize
  if let some value := p.nestedError then
    let max := maxNestedError p.delta
    -- a largest nested error that is not a number excludes nothing
    if !decide (0 < value) || decide (max ≤ value) then throw (.nestedErrorOutOfRange value max)

end Params

end SimCheck
