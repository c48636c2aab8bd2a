/-!
# Scalars

Probabilities, error bounds, times and sums are scalars.  The library computes with any type that
has the arithmetic of `Scalar`; programs run it at binary64 numbers (`SimCheck.Scalar.Binary64`).

* `Scalar` holds the operations, with an infinity and a test for values that are not numbers, since
  dwell times and coefficients of a test may be infinite;
* `Scalar.least`, `Scalar.greatest` ignore an argument that is not a number;
* `Scalar.ofBool` reads a Boolean observation as `0` or `1`.

No law is asked for: a statement in exact arithmetic is about an instance that has them.
-/

namespace SimCheck

/-- Arithmetic, order and elementary functions on the numbers a checker computes with. -/
class Scalar (R : Type) extends Zero R, One R, Add R, Sub R, Mul R, Div R, Neg R, LT R, LE R,
    BEq R, NatCast R, IntCast R, OfScientific R where
  /-- The strict order can be decided. -/
  decLt : DecidableLT R
  /-- The order can be decided. -/
  decLe : DecidableLE R
  /-- A value above every number. -/
  infinity : R
  /-- Whether the value is no number at all. -/
  isNaN : R → Bool
  /-- Whether the value is infinite, of either sign. -/
  isInfinite : R → Bool
  /-- The natural logarithm. -/
  ln : R → R
  /-- The square root. -/
  sqrt : R → R
  /-- The least natural number that is not below the value, up to the largest 64-bit word. -/
  ceil : R → Nat
  /-- The integer part, held within the signed 64-bit range. -/
  truncate : R → Int

namespace Scalar

variable {R : Type} [Scalar R]

instance : DecidableLT R := decLt

instance : DecidableLE R := decLe

/-- The smaller of two scalars; an argument that is not a number is ignored. -/
def least (a b : R) : R :=
  if isNaN a then b else if b < a then b else a

/-- The larger of two scalars; an argument that is not a number is ignored. -/
def greatest (a b : R) : R :=
  if isNaN a then b else if a < b then b else a

/-- Whether the value is a number and not infinite. -/
def isFinite (a : R) : Bool := !(isNaN a || isInfinite a)

/-- A Boolean observation as a number. -/
def ofBool (b : Bool) : R := if b then 1 else 0

/-- Whether the value is a number strictly between zero and one. -/
def isOpenUnit (a : R) : Bool := decide (0 < a) && decide (a < 1)

end Scalar

end SimCheck
