import Mathlib.Analysis.SpecialFunctions.Log.ENNRealLog
import Mathlib.Data.EReal.Inv
import Mathlib.Analysis.Real.Sqrt
import SimCheck.Scalar.Basic

/-!
# Exact scalars

The scalars of statements in exact arithmetic: the real numbers with an infinity at either end.
Every value is a number.  Outside the arithmetic of finite numbers the operations are those of the
extended reals; the logarithm of zero and of anything below is the lower infinity.

* `least_eq_min`, `greatest_eq_max` and the lemmas beside them read the operations of `Scalar` as
  those of the order;
* `truncate_natCast`: natural numbers are their own integer parts, within the signed 64-bit range.
-/

namespace SimCheck.Exact

open Classical in
noncomputable instance : Scalar EReal where
  beq a b := decide (a = b)
  natCast n := n
  intCast i := ((i : ℝ) : EReal)
  ofScientific m s e := ((OfScientific.ofScientific m s e : ℝ) : EReal)
  decLt := inferInstance
  decLe := inferInstance
  infinity := ⊤
  isNaN _ := false
  isInfinite a := decide (a = ⊤ ∨ a = ⊥)
  ln a := ENNReal.log a.toENNReal
  sqrt a := if a = ⊤ then ⊤ else (Real.sqrt a.toReal : EReal)
  ceil a := if a = ⊤ then UInt64.size - 1 else min ⌈a.toReal⌉₊ (UInt64.size - 1)
  truncate a :=
    if a = ⊤ then Int64.maxValue.toInt
    else if a = ⊥ then Int64.minValue.toInt
    else max Int64.minValue.toInt (min (Int.sign ⌊a.toReal⌋ * ⌊|a.toReal|⌋) Int64.maxValue.toInt)

theorem beq_eq_decide (a b : EReal) : (a == b) = decide (a = b) := by
  classical
  show decide (a = b) = decide (a = b)
  congr

theorem least_eq_min (a b : EReal) : Scalar.least a b = min a b := by
  show (if false = true then b else if b < a then b else a) = min a b
  rcases lt_or_ge b a with h | h
  · simp [h, min_eq_right h.le]
  · simp [h.not_gt, min_eq_left h]

theorem greatest_eq_max (a b : EReal) : Scalar.greatest a b = max a b := by
  show (if false = true then b else if a < b then b else a) = max a b
  rcases lt_or_ge a b with h | h
  · simp [h, max_eq_right h.le]
  · simp [h.not_gt, max_eq_left h]

theorem div_natCast (a : ℝ) (k : ℕ) :
    (a : EReal) / (Scalar.toNatCast.natCast k : EReal) = (a / k : ℝ) := by
  show (a : EReal) / ((k : ℕ) : EReal) = _
  rw [EReal.coe_div, EReal.coe_natCast]

/-- Half of a number, written with a decimal point. -/
theorem div_two (a : ℝ) : (a : EReal) / (2.0 : EReal) = (a / 2 : ℝ) := by
  show (a : EReal) / ((OfScientific.ofScientific 20 true 1 : ℝ) : EReal) = _
  rw [← EReal.coe_div]
  norm_num

theorem ln_mono {a b : EReal} (h : a ≤ b) : Scalar.ln a ≤ Scalar.ln b :=
  ENNReal.log_le_log (EReal.toENNReal_le_toENNReal h)

theorem ln_nonpos {a : EReal} (h : a ≤ 1) : Scalar.ln a ≤ 0 :=
  ENNReal.log_le_zero_iff.2
    ((EReal.toENNReal_le_toENNReal h).trans_eq (@EReal.toENNReal_coe 1))

theorem ln_ne_bot {a : EReal} (h : 0 < a) : Scalar.ln a ≠ ⊥ :=
  (ENNReal.bot_lt_log_iff.2 (EReal.toENNReal_pos_iff.2 h)).ne'

/-- The integer part of a natural number is the number itself, as far as it is in range. -/
theorem truncate_natCast (k : ℕ) :
    Scalar.truncate (k : EReal) = min (k : ℤ) Int64.maxValue.toInt := by
  have hreal : (k : EReal).toReal = k := by rw [← EReal.coe_natCast, EReal.toReal_coe]
  show (if (k : EReal) = ⊤ then _ else if (k : EReal) = ⊥ then _ else _) = _
  rw [if_neg (EReal.natCast_ne_top k), if_neg (EReal.natCast_ne_bot k), hreal,
    abs_of_nonneg (Nat.cast_nonneg k), Int.floor_natCast]
  have hsign : Int.sign k * k = (k : ℤ) := by cases k <;> simp
  have hmin : Int64.minValue.toInt ≤ 0 := by decide
  have hmax : 0 ≤ Int64.maxValue.toInt := by decide
  rw [hsign]
  omega

/-- One half, written with a decimal point. -/
theorem half_eq : (0.5 : EReal) = ((1 / 2 : ℝ) : EReal) := by
  show ((OfScientific.ofScientific 5 true 1 : ℝ) : EReal) = _
  norm_num

theorem div_anti {a b b' : EReal} (ha : 0 ≤ a) (hb : 0 < b) (h : b ≤ b') : a / b' ≤ a / b :=
  mul_le_mul_of_nonneg_left (EReal.inv_strictAntiOn.antitoneOn hb (hb.trans_le h) h) ha

theorem isInfinite_iff (a : EReal) : Scalar.isInfinite a = true ↔ a = ⊤ ∨ a = ⊥ := by
  classical
  show decide (a = ⊤ ∨ a = ⊥) = true ↔ _
  rw [decide_eq_true_iff]

theorem isInfinite_coe (a : ℝ) : Scalar.isInfinite (a : EReal) = false := by
  have h : ¬Scalar.isInfinite (a : EReal) = true := by
    rw [isInfinite_iff]
    exact not_or.2 ⟨EReal.coe_ne_top a, EReal.coe_ne_bot a⟩
  exact Bool.eq_false_of_not_eq_true h

theorem isInfinite_top : Scalar.isInfinite (⊤ : EReal) = true := (isInfinite_iff ⊤).2 (.inl rfl)

end SimCheck.Exact
