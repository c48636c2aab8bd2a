/-!
# Binomial probabilities in binary64 arithmetic

The probability mass at a point is computed by the saddle-point expansion: with the Stirling error
`δ(n) = ln n! - ln (√(2πn) (n/e)ⁿ)` and the deviance `D(x, μ) = x ln (x/μ) + μ - x`,

  `ln P(X = x) = δ(n) - δ(x) - δ(n-x) - D(x, np) - D(n-x, nq) + ½ ln (n / (2πx(n-x)))`,

in which no large terms cancel.  A tail is summed from its largest term outwards, each term from
the one before.

* `Binary64.binomialMass` is `P(X = x)`;
* `Binary64.binomialTail` is `P(X ≤ k)`, from the shorter of the two tails.
-/

namespace SimCheck.Binary64

/-- The ratio of the circumference of a circle to its diameter. -/
def pi : Float := 3.141592653589793

/-- The Stirling errors of `1` to `15`. -/
def smallStirlingErrors : Array Float := #[
  0.08106146679532726, 0.04134069595540929, 0.02767792568499834, 0.02079067210376509,
  0.01664469118982119, 0.01387612882307075, 0.01189670994589177, 0.01041126526197209,
  0.009255462182712733, 0.008330563433362871, 0.007573675487951841, 0.006942840107209530,
  0.006408994188004207, 0.005951370112758848, 0.005554733551962801]

/-- The Stirling error of a positive natural number, given also as a float. -/
def stirlingError (n : Nat) (x : Float) : Float :=
  match smallStirlingErrors[n - 1]? with
  | some e => e
  | none =>
    let y := 1.0 / (x * x)
    (1.0 / 12.0 - y * (1.0 / 360.0 - y * (1.0 / 1260.0 - y * (1.0 / 1680.0 - y / 1188.0)))) / x

/-- Adds the terms `term · squareⁿ / (2n + 1)` from `n` on until they no longer count. -/
def devianceSeries (square : Float) : Nat → Nat → Float → Float → Float
  | 0, _, _, sum => sum
  | fuel + 1, n, term, sum =>
    let term := term * square
    let next := sum + term / (2 * n + 1).toFloat
    if next == sum then sum else devianceSeries square fuel (n + 1) term next

/-- The deviance `x ln (x/mean) + mean - x`, by its series where the two are close. -/
def deviance (x mean : Float) : Float :=
  if (x - mean).abs < 0.1 * (x + mean) then
    let v := (x - mean) / (x + mean)
    devianceSeries (v * v) 1000 1 (2.0 * x * v) ((x - mean) * v)
  else x * (x / mean).log + mean - x

/-- The probability of exactly `x` successes in `n` trials, for `0 < p < 1` and `x ≤ n`. -/
def binomialMass (x n : Nat) (p : Float) : Float :=
  let q := 1.0 - p
  let size := n.toFloat
  if n = 0 then 1.0
  else if x = 0 then
    (if p < 0.1 then -(deviance size (size * q)) - size * p else size * q.log).exp
  else if x = n then
    (if q < 0.1 then -(deviance size (size * p)) - size * q else size * p.log).exp
  else
    let hits := x.toFloat
    let misses := (n - x).toFloat
    let exponent := stirlingError n size - stirlingError x hits - stirlingError (n - x) misses
      - deviance hits (size * p) - deviance misses (size * q)
    exponent.exp * (size / (2.0 * pi * hits * misses)).sqrt

/-- Adds `term` at `x` and the terms below it. -/
def sumDown (n : Nat) (odds : Float) : Nat → Float → Float → Float
  | 0, term, sum => sum + term
  | x + 1, term, sum =>
    let next := term * (x + 1).toFloat / ((n - x).toFloat * odds)
    let sum := sum + term
    if next ≤ sum * 1e-18 then sum else sumDown n odds x next sum

/-- Adds `term` at `x = n - left` and the terms above it. -/
def sumUp (n : Nat) (odds : Float) : Nat → Float → Float → Float
  | 0, term, sum => sum + term
  | left + 1, term, sum =>
    let next := term * (left + 1).toFloat * odds / (n - left).toFloat
    let sum := sum + term
    if next ≤ sum * 1e-18 then sum else sumUp n odds left next sum

/-- The probability of at most `k` successes in `n` trials, for `k < n` and `0 ≤ p ≤ 1`. -/
def binomialTail (k n : Nat) (p : Float) : Float :=
  if p ≤ 0.0 then 1.0
  else if 1.0 ≤ p then 0.0
  else
    let odds := p / (1.0 - p)
    if k.toFloat ≤ n.toFloat * p then sumDown n odds k (binomialMass k n p) 0.0
    else 1.0 - sumUp n odds (n - (k + 1)) (binomialMass (k + 1) n p) 0.0

end SimCheck.Binary64
