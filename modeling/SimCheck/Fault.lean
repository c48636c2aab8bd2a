/-!
# Faults

A fault is a broken precondition: an argument that a constructor does not admit, or a variable that
a state does not have.  A fault ends the computation in which it arises.  The wording is in
`SimCheck.Fault.Message`.
-/

namespace SimCheck

/-- The preconditions that can be broken, with the offending values. -/
inductive Fault (R : Type)
  /-- A state has fewer variables than the index asks for. -/
  | indexOutOfBounds (length index : Nat)
  /-- The probability of a binomial distribution is not in the unit interval. -/
  | probabilityOutOfRange (p : R)
  /-- The bound of a probability threshold is not in the unit interval. -/
  | thresholdOutOfRange (theta : R)
  /-- A time window opens before the start. -/
  | negativeMinTime
  /-- A time window closes before it opens. -/
  | emptyWindow (lower upper : R)
  /-- A ratio test needs `0 ≤ theta1 < theta0 ≤ 1`. -/
  | emptyRatioRegion (theta0 theta1 : R)
  /-- A sampling plan needs `0 ≤ theta1 < theta0 ≤ 1`. -/
  | emptyPlanRegion (theta0 theta1 : R)
  /-- The error bounds of a test are not both strictly between zero and one. -/
  | errorBoundsOutOfRange
  /-- The lower end of a region lies above its upper end. -/
  | invertedRegion (theta1 theta0 : R)
  /-- A fixed sample has no observations. -/
  | zeroSampleSize
  /-- An interval has no positive half-width. -/
  | nonPositiveWidth (delta : R)
  /-- The error probability of an interval is not strictly between zero and one. -/
  | errorOutOfRange (alpha : R)
  /-- No sampling plan has been found up to this size. -/
  | noPlan (size : Nat)
  /-- A remainder modulo zero. -/
  | zeroModulus
  /-- The remainder of the least word modulo minus one. -/
  | remainderOverflow

end SimCheck
