import SimCheck.Scalar.Basic

/-!
# Binary64 scalars

The scalars a program runs with: IEEE 754 binary64 numbers, rounded to nearest, with the logarithm
and the square root of the platform.
-/

namespace SimCheck.Binary64

/-- The nearest binary64 number to a natural number. -/
def ofNat (n : Nat) : Float :=
  if n < UInt64.size then n.toUInt64.toFloat else Float.ofNat n

/-- The nearest binary64 number to an integer. -/
def ofInt (i : Int) : Float :=
  match i with
  | .ofNat n => ofNat n
  | .negSucc n => -ofNat (n + 1)

/-- The integer part, held within the signed 64-bit range; what is not a number counts as zero.  It is
read off the bits, since the conversion of the platform is closed to proofs. -/
def truncate (x : Float) : Int := x.toModel.toInt64.toInt

instance : Scalar Float where
  zero := 0.0
  one := 1.0
  natCast := ofNat
  intCast := ofInt
  decLt := inferInstance
  decLe := inferInstance
  infinity := 1.0 / 0.0
  isNaN := Float.isNaN
  isInfinite := Float.isInf
  ln := Float.log
  sqrt := Float.sqrt
  ceil x := x.ceil.toUInt64.toNat
  truncate := truncate

end SimCheck.Binary64
