/-!
# The exact value of a binary64 number

* `Decimal.Exact` is a binary64 number taken apart: not a number, infinite, or a sign with a
  magnitude `m · 2 ^ e`;
* `Decimal.Ratio` is a magnitude as a quotient of naturals, on which decimal texts are computed
  without rounding;
* `Decimal.Ratio.decade` places a positive quotient between two powers of ten.
-/

namespace SimCheck.Decimal

/-- A binary64 number taken apart. -/
inductive Exact
  | nan
  | infinite (negative : Bool)
  /-- The magnitude is `mantissa · 2 ^ exponent`. -/
  | finite (negative : Bool) (mantissa : Nat) (exponent : Int)

/-- The exponent of the least binary64 magnitudes. -/
def leastExponent : Int := -1074

/-- Takes a binary64 number apart. -/
def Exact.ofFloat (x : Float) : Exact :=
  let bits := x.toBits.toNat
  let negative := decide (Nat.pow 2 63 ≤ bits)
  let field := bits / Nat.pow 2 52 % Nat.pow 2 11
  let fraction := bits % Nat.pow 2 52
  if field = 2047 then
    if fraction = 0 then .infinite negative else .nan
  else if field = 0 then .finite negative fraction leastExponent
  else .finite negative (Nat.pow 2 52 + fraction) (leastExponent + (field - 1 : Nat))

/-- A quotient of two naturals. -/
structure Ratio where
  num : Nat
  den : Nat

namespace Ratio

/-- The quotient `m · 2 ^ e`. -/
def ofBinary (m : Nat) : Int → Ratio
  | .ofNat e => ⟨m * Nat.pow 2 e, 1⟩
  | .negSucc e => ⟨m, Nat.pow 2 (e + 1)⟩

/-- The quotient divided by `10 ^ k`. -/
def scale (r : Ratio) : Int → Ratio
  | .ofNat k => ⟨r.num, r.den * Nat.pow 10 k⟩
  | .negSucc k => ⟨r.num * Nat.pow 10 (k + 1), r.den⟩

/-- The largest natural number that is not above the quotient. -/
def floor (r : Ratio) : Nat := r.num / r.den

/-- The number of decimal digits of a natural number. -/
def digitCount (n : Nat) : Nat := (Nat.toDigits 10 n).length

/-- The least `k` with `r < 10 ^ k`, for a positive quotient `r`. -/
def decade (r : Ratio) : Int :=
  if r.den ≤ r.num then digitCount r.floor
  else
    -- the least `l` with `10 ^ l · num ≥ den` is the digit count of `⌈den / num⌉ - 1`
    1 - (digitCount ((r.den - 1) / r.num) : Int)

end Ratio

/-- How a quotient that lies halfway between two integers is rounded. -/
inductive Tie
  | up
  | even

/-- The natural number nearest to a quotient. -/
def Ratio.round (tie : Tie) (r : Ratio) : Nat :=
  let q := r.floor
  let twice := 2 * (r.num % r.den)
  if twice < r.den then q
  else if r.den < twice then q + 1
  else match tie with
    | .up => q + 1
    | .even => if q % 2 = 0 then q else q + 1

end SimCheck.Decimal
