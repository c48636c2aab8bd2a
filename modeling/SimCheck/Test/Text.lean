import SimCheck.Decimal.Text
import SimCheck.Scalar.Binary64
import SimCheck.Test.Threshold

/-!
# Tests as text

`ThresholdTest.text` and `IntervalEstimate.text` are the one-line diagnostics of a test: its kind,
its region, its state and its verdict.  The limit of an interval rests on a quantile and is written
with six significant digits.
-/

namespace SimCheck

open Decimal (text)

/-- The two ends of a region. -/
def Region.text (r : Region Float) : String :=
  "theta0=" ++ Decimal.text r.theta0 ++ " theta1=" ++ Decimal.text r.theta1

/-- Size and acceptance number of a plan. -/
def Plan.text (p : Plan) : String := s!"n={p.n} c={p.c}"

/-- Whether a verdict has been reached, and which. -/
def verdictText (verdict : Option Bool) : String :=
  s!"done={verdict.isSome} accept={verdict.getD false}"

/-- The diagnostics of a fixed test. -/
def FixedTest.text (t : FixedTest Float) : String :=
  s!"fixed {t.region.text} n={t.size} count={t.sample.count} mean={Decimal.text t.sample.mean} "
    ++ verdictText t.verdict

/-- The diagnostics of a single sampling test. -/
def SingleSamplingTest.text (t : SingleSamplingTest Float) : String :=
  s!"ssp {t.region.text} {t.plan.text} count={t.sample.count} sum={Decimal.text t.sample.sum} "
    ++ verdictText t.verdict

/-- The diagnostics of a ratio test. -/
def RatioTest.text (t : RatioTest Float) : String :=
  s!"sprt {t.region.text} llr={Decimal.text t.ratio} accept<={Decimal.text t.limits.accept} "
    ++ s!"reject>{Decimal.text t.limits.reject} count={t.sample.count} "
    ++ verdictText t.verdict

/-- The diagnostics of a fixed-width estimator. -/
def IntervalEstimate.text (e : IntervalEstimate Float) : String :=
  s!"chow-robbins delta={Decimal.text e.delta} alpha={Decimal.text e.alpha} "
    ++ s!"count={e.sample.count} mean={Decimal.text e.mean} state={Decimal.text e.spread} "
    ++ s!"bound={Decimal.text (Decimal.significant 6 e.limit)} done={e.done}"

/-- The diagnostics of a threshold test. -/
def ThresholdTest.text : ThresholdTest Float → String
  | fixed t => t.text
  | singleSampling t => t.text
  | ratio t => t.text
  | interval t => t.region.text ++ " " ++ t.estimate.text

end SimCheck
