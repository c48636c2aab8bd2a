import SimCheck.Decimal.Text
import SimCheck.Fault

/-!
# Wording of faults

`Fault.message` says which precondition was broken, with the values written as shortest decimals.
-/

namespace SimCheck

open Decimal (text)

/-- The wording of a fault. -/
def Fault.message : Fault Float → String
  | .indexOutOfBounds length index =>
    s!"index out of bounds: the len is {length} but the index is {index}"
  | .probabilityOutOfRange p => "probability must be in [0, 1], got " ++ text p
  | .thresholdOutOfRange theta => "probability threshold must be in [0, 1], got " ++ text theta
  | .negativeMinTime => "min_time must be non-negative"
  | .emptyWindow lower upper => "min_time " ++ text lower ++ " exceeds max_time " ++ text upper
  | .emptyRatioRegion theta0 theta1 =>
    "sprt needs 0 <= theta1 < theta0 <= 1, got (" ++ text theta0 ++ ", " ++ text theta1 ++ ")"
  | .emptyPlanRegion theta0 theta1 =>
    "single sampling needs 0 <= theta1 < theta0 <= 1, got (" ++ text theta0 ++ ", "
      ++ text theta1 ++ ")"
  | .errorBoundsOutOfRange =>
    "assertion failed: alpha > 0.0 && alpha < 1.0 && beta > 0.0 && beta < 1.0"
  | .invertedRegion theta1 theta0 =>
    "theta1 " ++ text theta1 ++ " exceeds theta0 " ++ text theta0
  | .zeroSampleSize => "fixed sample size must be positive"
  | .nonPositiveWidth delta => "delta must be positive, got " ++ text delta
  | .errorOutOfRange alpha => "alpha must be in (0, 1), got " ++ text alpha
  | .noPlan size => s!"no single sampling plan below {size}"
  | .zeroModulus => "attempt to calculate the remainder with a divisor of zero"
  | .remainderOverflow => "attempt to calculate the remainder with overflow"

end SimCheck
