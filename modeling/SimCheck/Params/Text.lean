import SimCheck.Decimal.Text
import SimCheck.Params
import SimCheck.Scalar.Binary64

/-!
# Names of algorithms and wording of refusals

`ThresholdAlgorithm.name` and `EstimationAlgorithm.name` are the names used in configuration files;
`ofName?` reads them.  `ParamsError.message` says why parameters are refused.
-/

namespace SimCheck

namespace ThresholdAlgorithm

/-- The name in configuration files. -/
def name : ThresholdAlgorithm → String
  | .fixed => "fixed"
  | .ssp => "ssp"
  | .sprt => "sprt"
  | .chowRobbins => "chow-robbins"

/-- The name at the start of a sentence part. -/
def title : ThresholdAlgorithm → String
  | .fixed => "Fixed"
  | .ssp => "Ssp"
  | .sprt => "Sprt"
  | .chowRobbins => "ChowRobbins"

/-- The algorithm with a name. -/
def ofName? (s : String) : Option ThresholdAlgorithm :=
  [fixed, ssp, sprt, chowRobbins].find? fun a => a.name = s

theorem ofName?_name (a : ThresholdAlgorithm) : ofName? a.name = some a := by
  cases a <;> decide

end ThresholdAlgorithm

namespace EstimationAlgorithm

/-- The name in configuration files. -/
def name : EstimationAlgorithm → String
  | .chowRobbins => "chow-robbins"
  | .chernoff => "chernoff"

/-- The algorithm with a name. -/
def ofName? (s : String) : Option EstimationAlgorithm :=
  [chowRobbins, chernoff].find? fun a => a.name = s

theorem ofName?_name (a : EstimationAlgorithm) : ofName? a.name = some a := by
  cases a <;> decide

end EstimationAlgorithm

open Decimal (text)

/-- The wording of a refusal. -/
def ParamsError.message : ParamsError Float → String
  | .alphaOutOfRange value => "alpha must be in (0, 1), got " ++ text value
  | .betaOutOfRange value => "beta must be in (0, 1), got " ++ text value
  | .negativeDelta value => "delta must be non-negative, got " ++ text value
  | .emptyRegion algorithm =>
    "delta must be positive for the " ++ algorithm.title ++ " algorithm"
  | .nonPositiveEpsilon value => "epsilon must be positive, got " ++ text value
  | .zeroSampleSize => "fixed sample size must be positive"
  | .nestedErrorOutOfRange value max =>
    "nested error " ++ text value ++ " must be in (0, " ++ text max ++ ")"

end SimCheck
