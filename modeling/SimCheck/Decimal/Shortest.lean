import SimCheck.Decimal.Exact

/-!
# Shortest decimals

The shortest decimal that reads back as a given positive binary64 magnitude.  A magnitude
`m · 2 ^ e` stands for the interval of reals that round to it; its ends belong to it when `m` is
even.  On the grid of `n` digits only the two neighbours of the magnitude can be the nearest point
of the interval, so the grids `n = 1, 2, …, 17` are tried in turn and the first with a neighbour
inside wins.  All of it is exact arithmetic on naturals.

* `Decimal.Interval` is the interval, in quarters of `2 ^ e`;
* `Decimal.shortest` answers the digits and the exponent of ten.
-/

namespace SimCheck.Decimal

/-- A decimal magnitude `digits · 10 ^ exponent`. -/
structure Digits where
  digits : Nat
  exponent : Int

/-- The reals that round to `m · 2 ^ e`, in units of `2 ^ (e - 2)`. -/
structure Interval where
  low : Nat
  centre : Nat
  high : Nat
  closed : Bool

namespace Interval

/-- The gap below a power of two is half the gap above it, unless it is the least exponent. -/
def ofBinary (m : Nat) (e : Int) : Interval where
  low := if m = Nat.pow 2 52 ∧ e ≠ leastExponent then 4 * m - 1 else 4 * m - 2
  centre := 4 * m
  high := 4 * m + 2
  closed := m % 2 = 0

/-- Whether the quotient, in the units of the interval, lies in it. -/
def contains (i : Interval) (r : Ratio) : Bool :=
  if i.closed then decide (i.low * r.den ≤ r.num) && decide (r.num ≤ i.high * r.den)
  else decide (i.low * r.den < r.num) && decide (r.num < i.high * r.den)

end Interval

/-- The point `d` of the grid `10 ^ k`, in units of `2 ^ (e - 2)`. -/
def gridPoint (e k : Int) (d : Nat) : Ratio :=
  let unit := Ratio.ofBinary 1 (e - 2)
  let point := (⟨d, 1⟩ : Ratio).scale (-k)
  ⟨point.num * unit.den, point.den * unit.num⟩

/-- The neighbour of `m · 2 ^ e` on the grid `10 ^ k` that lies in the interval, the nearer one if
both do. -/
def onGrid (i : Interval) (m : Nat) (e k : Int) : Option Nat :=
  let r := (Ratio.ofBinary m e).scale k
  let below := r.floor
  match i.contains (gridPoint e k below), i.contains (gridPoint e k (below + 1)) with
  | true, true => some (r.round .up)
  | true, false => some below
  | false, true => some (below + 1)
  | false, false => none

/-- Drops trailing zeros, at most `fuel` of them. -/
def Digits.trim : Nat → Digits → Digits
  | 0, d => d
  | fuel + 1, d =>
    if d.digits % 10 = 0 then Digits.trim fuel ⟨d.digits / 10, d.exponent + 1⟩ else d

/-- The shortest decimal in the interval of `m · 2 ^ e`, for a positive `m`; of two, the nearer. -/
def shortest (m : Nat) (e : Int) : Digits :=
  let i := Interval.ofBinary m e
  let top := (Ratio.ofBinary m e).decade
  let hit := (List.range 17).findSome? fun (n : Nat) =>
    let k : Int := top - (n + 1 : Nat)
    (onGrid i m e k).map fun d => (⟨d, k⟩ : Digits)
  match hit with
  | some d => d.trim 17
  | none => ⟨(Ratio.ofBinary m e).floor, 0⟩

end SimCheck.Decimal
