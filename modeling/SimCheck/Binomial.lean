import SimCheck.Distribution.Basic
import SimCheck.Fault

/-!
# The binomial distribution

* `Binomial.cdf` is `P(X ≤ k)` for any integer `k`;
* `Binomial.quantile` is the least `x` with `P(X ≤ x) ≥ y`, found by bisection;
* `Binomial.cdf?` and `Binomial.quantile?` refuse a `p` that is no probability.

Counts are words of 64 bits.  Where one of them is used as a signed number it is read in two's
complement, which changes nothing below `2 ^ 63`.
-/

namespace SimCheck

/-- A word of 64 bits read as a signed number. -/
def signed (n : Nat) : Int :=
  let word : Nat := n % UInt64.size
  if word < Nat.pow 2 63 then word else (word : Int) - UInt64.size

theorem signed_of_lt {n : Nat} (h : n < Nat.pow 2 63) : signed n = n := by
  have word : n % UInt64.size = n := Nat.mod_eq_of_lt (Nat.lt_trans h (by decide))
  simp only [signed, word, h, if_true]

/-- The least index from `lo` on that passes a test which, once passed, is passed from there on;
`hi` if none below it does. -/
def bisect (test : Nat → Bool) (lo hi : Nat) : Nat :=
  if lo < hi then
    let mid := lo + (hi - lo) / 2
    if test mid then bisect test lo mid else bisect test (mid + 1) hi
  else lo
termination_by hi - lo

namespace Binomial

variable {R : Type} [Scalar R] [Distributions R]

/-- The probability of at most `k` successes in `n` trials. -/
def cdf (k : Int) (n : Nat) (p : R) : R :=
  if k < 0 then 0
  else if n ≤ k.toNat then 1
  else Distributions.binomial k.toNat n p

/-- The least `x` with `P(X ≤ x) ≥ y`, at most `n`.  At the ends of the unit interval all mass is
on one point. -/
def quantile (y : R) (n : Nat) (p : R) : Int :=
  if p == 0 || decide (y ≤ 0) then 0
  else if p == 1 then signed n
  else signed (bisect (fun x => decide (y ≤ cdf (signed x) n p)) 0 n)

omit [Distributions R] in
/-- Whether the value is a probability. -/
def isProbability (p : R) : Bool := decide (0 ≤ p) && decide (p ≤ 1)

/-- `cdf`, for a `p` that is checked to be a probability. -/
def cdf? (k : Int) (n : Nat) (p : R) : Except (Fault R) R :=
  if isProbability p then .ok (cdf k n p) else .error (.probabilityOutOfRange p)

/-- `quantile`, for a `p` that is checked to be a probability. -/
def quantile? (y : R) (n : Nat) (p : R) : Except (Fault R) Int :=
  if isProbability p then .ok (quantile y n p) else .error (.probabilityOutOfRange p)

end Binomial

end SimCheck
