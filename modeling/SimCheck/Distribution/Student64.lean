/-!
# Student quantiles in binary64 arithmetic

The tail of a Student distribution is a regularized incomplete beta function, so that its quantile is
an inverse of that function.

* `logGamma` is the logarithm of the gamma function, by the series of Lanczos;
* `regularizedBeta` evaluates the continued fraction of the incomplete beta function on the side
  where it converges fast;
* `inverseBeta` finds the root by Newton's method from a normal approximation, with a step that is
  divided by three as long as it leaves the unit interval or grows;
* `studentQuantile` is the quantile.
-/

namespace SimCheck.Binary64

/-- The centre of the series for the gamma function. -/
def gammaCentre : Float := 10.900511

/-- The coefficients of the series for the gamma function after the first. -/
def gammaCoefficients : List Float := [
  1.05142378581721974210, -3.45687097222016235469, 4.51227709466894823700,
  -2.98285225323576655721, 1.05639711577126713077, -1.95428773191645869583e-1,
  1.70970543404441224307e-2, -5.71926117404305781283e-4, 4.63399473359905636708e-6,
  -2.71994908488607703910e-9]

/-- The sum of a constant and of the coefficients over `start`, `start + 1`, …. -/
def gammaSeries (start : Float) : Float :=
  (gammaCoefficients.foldl (fun (sum, n) c => (sum + c / (start + n), n + 1.0))
    (2.48574089138753565546e-5, 0.0)).1

/-- The logarithm of the gamma function at a positive number from one half on. -/
def logGamma (x : Float) : Float :=
  (gammaSeries x).log + 0.6207822376352452223455184457816472122518527279025978
    + (x - 0.5) * ((x - 0.5 + gammaCentre) / 2.718281828459045).log

/-- The least magnitude of a denominator of the continued fraction. -/
def leastDenominator : Float := 2.2250738585072014e-308 / 1.1102230246251565e-16

/-- Keeps a denominator of a continued fraction away from zero. -/
def awayFromZero (x : Float) : Float := if x.abs < leastDenominator then leastDenominator else x

/-- The continued fraction of the incomplete beta function from its `m`-th pair of terms on. -/
def betaFractionFrom (a b x : Float) : Nat → Float → Float → Float → Float → Float
  | 0, _, _, _, h => h
  | fuel + 1, m, c, d, h =>
    let even := m * (b - m) * x / ((a - 1.0 + m * 2.0) * (a + m * 2.0))
    let d := 1.0 / awayFromZero (1.0 + even * d)
    let c := awayFromZero (1.0 + even / c)
    let h := h * d * c
    let odd := -(a + m) * (a + b + m) * x / ((a + m * 2.0) * (a + 1.0 + m * 2.0))
    let d := 1.0 / awayFromZero (1.0 + odd * d)
    let c := awayFromZero (1.0 + odd / c)
    let change := d * c
    let h := h * change
    if (change - 1.0).abs ≤ 1.1102230246251565e-16 then h
    else betaFractionFrom a b x fuel (m + 1.0) c d h

/-- The continued fraction of the incomplete beta function, at most 140 pairs of terms. -/
def betaFraction (a b x : Float) : Float :=
  let d := 1.0 / awayFromZero (1.0 - (a + b) * x / (a + 1.0))
  betaFractionFrom a b x 140 1.0 1.0 d d

/-- The factor in front of both continued fractions; zero at the ends of the unit interval. -/
def betaFactor (a b x : Float) : Float :=
  if x == 0.0 || (x - 1.0).abs ≤ 4.440892098500626e-16 then 0.0
  else (logGamma (a + b) - logGamma a - logGamma b + a * x.log + b * (1.0 - x).log).exp

/-- The regularized incomplete beta function. -/
def regularizedBeta (a b x : Float) : Float :=
  if (a + 1.0) / (a + b + 2.0) ≤ x then 1.0 - betaFactor a b x * betaFraction b a (1.0 - x) / b
  else betaFactor a b x * betaFraction a b x / a

/-- A first guess at the inverse where both parameters are above one. -/
def guessBothLarge (a b normal : Float) : Float :=
  let r := (normal * normal - 3.0) / 6.0
  let s := 1.0 / (2.0 * a - 1.0)
  let t := 1.0 / (2.0 * b - 1.0)
  let h := 2.0 / (s + t)
  let w := normal * (h + r).sqrt / h - (t - s) * (r + 5.0 / 6.0 - 2.0 / (3.0 * h))
  a / (a + b * (2.0 * w).exp)

/-- A first guess at the inverse otherwise, from a cubed normal approximation. -/
def guessSmall (a b y normal logBeta : Float) : Float :=
  let t := 1.0 / (9.0 * b)
  let t := 2.0 * b * (1.0 - t + normal * t.sqrt).pow 3.0
  if t ≤ 0.0 then 1.0 - ((((1.0 - y) * b).log + logBeta) / b).exp
  else
    let t := 2.0 * (2.0 * a + b - 1.0) / t
    if t ≤ 1.0 then (((y * a).log + logBeta) / a).exp else 1.0 - 2.0 / (t + 1.0)

/-- A first guess at the inverse, away from the ends of the unit interval. -/
def guessInverse (a b y logBeta : Float) : Float :=
  let p := (-(y * y).log).sqrt
  let normal := p - (2.30753 + 0.27061 * p) / (1.0 + (0.99229 + 0.04481 * p) * p)
  let guess :=
    if 1.0 < a && 1.0 < b then guessBothLarge a b normal else guessSmall a b y normal logBeta
  if guess < 0.0001 then 0.0001 else if 0.9999 < guess then 0.9999 else guess

/-- The square of a step that counts as none. -/
def leastSquare : Float := 1e-30

/-- A step of the iteration: where it leads, its square, and whether it is the last. -/
structure NewtonStep where
  next : Float
  square : Float
  isLast : Bool

/-- The step from `x` by `g · step`, where `g` is divided by three as long as the step is not
smaller than the one before or leaves the unit interval. -/
def dampedStep (x step previous accuracy : Float) : Nat → Float → NewtonStep
  | 0, _ => ⟨x, 0.0, true⟩
  | fuel + 1, g =>
    let move := g * step
    let square := move * move
    let next := x - move
    if square < previous && 0.0 ≤ next && next ≤ 1.0 then
      if previous ≤ accuracy || step * step ≤ accuracy then ⟨next, square, true⟩
      else if next != 0.0 && next != 1.0 then ⟨next, square, false⟩
      else dampedStep x step previous accuracy fuel (g / 3.0)
    else dampedStep x step previous accuracy fuel (g / 3.0)

/-- The iteration from `x`, given the last step and the squares of the last two. -/
def iterateInverse (a b y logBeta accuracy : Float) :
    Nat → Float → Float → Float → Float → Float
  | 0, x, _, _, _ => x
  | fuel + 1, x, lastStep, square, previous =>
    let step := (regularizedBeta a b x - y)
      * (logBeta + (1.0 - a) * x.log + (1.0 - b) * (1.0 - x).log).exp
    let previous :=
      if step * lastStep ≤ 0.0 then (if leastSquare < square then square else leastSquare)
      else previous
    let taken := dampedStep x step previous accuracy 3000 1.0
    if taken.isLast || taken.next == x then taken.next
    else iterateInverse a b y logBeta accuracy fuel taken.next step taken.square previous

/-- The inverse of the regularized incomplete beta function at `y`, at most one half. -/
def inverseBetaLower (a b y logBeta : Float) : Float :=
  let decades := (-5.0 / a / a - 1.0 / y.pow 0.2 - 13.0).toInt64
  let accuracy := if -30 < decades then (10.0 : Float).pow decades.toFloat else leastSquare
  iterateInverse a b y logBeta accuracy 10000 (guessInverse a b y logBeta) 0.0 1.0 1.0

/-- The inverse of the regularized incomplete beta function. -/
def inverseBeta (a b y : Float) : Float :=
  let logBeta := logGamma a + logGamma b - logGamma (a + b)
  if y == 0.0 then 0.0
  else if y == 1.0 then 1.0
  else if 0.5 < y then 1.0 - inverseBetaLower b a (1.0 - y) logBeta
  else inverseBetaLower a b y logBeta

/-- The quantile of the Student distribution. -/
def studentQuantile (freedom probability : Float) : Float :=
  let tail := if 0.5 ≤ probability then 1.0 - probability else probability
  let y := inverseBeta (0.5 * freedom) 0.5 (2.0 * tail)
  let magnitude := (freedom * (1.0 - y) / y).sqrt
  if 0.5 ≤ probability then magnitude else -magnitude

end SimCheck.Binary64
