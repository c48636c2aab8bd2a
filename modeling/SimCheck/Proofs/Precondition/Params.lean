import Mathlib.Tactic.Linarith
import SimCheck.Proofs.ErrorBudget.Division
import SimCheck.Proofs.Test.Verdict

/-!
# Parameters with which tests can be created

In exact arithmetic.  A nested error `e` leaves a region of half-width `d` around one half when
`e (1 + 2 d) < 2 d`, and then around every other threshold too.

* `OpenUnit`: numbers strictly between zero and one, which are closed under shares and halves;
* `Region.around_le`, `Region.isProper_around`: the region of a threshold;
* `ThresholdTest.Admits`, `ThresholdTest.admits_iff`: what the constructors of tests assert;
* `Params.validate_eq_ok`: what valid parameters are.
-/

namespace SimCheck

/-! ### The open unit interval -/

/-- Strictly between zero and one. -/
def OpenUnit (x : EReal) : Prop := 0 < x ∧ x < 1

theorem isOpenUnit_iff {x : EReal} : Scalar.isOpenUnit x = true ↔ OpenUnit x := by
  simp [Scalar.isOpenUnit, OpenUnit]

namespace OpenUnit

variable {x y : EReal}

theorem coe_iff {q : ℝ} : OpenUnit (q : EReal) ↔ 0 < q ∧ q < 1 :=
  and_congr EReal.coe_pos (EReal.coe_lt_coe_iff (y := 1))

theorem exists_coe (h : OpenUnit x) : ∃ q : ℝ, (q : EReal) = x ∧ 0 < q ∧ q < 1 := by
  lift x to ℝ using ⟨h.2.ne_top, h.1.ne_bot⟩
  exact ⟨x, rfl, coe_iff.1 h⟩

theorem div (h : OpenUnit x) {k : ℕ} (hk : 0 < k) :
    OpenUnit (x / (Scalar.toNatCast.natCast k : EReal)) := by
  obtain ⟨q, rfl, hq⟩ := h.exists_coe
  rw [Exact.div_natCast, coe_iff]
  exact ErrorBounds.div_proper hq hk

theorem halves (h : OpenUnit x) : OpenUnit (x / 2.0) ∧ OpenUnit (x - x / 2.0) := by
  obtain ⟨q, rfl, hpos, hlt⟩ := h.exists_coe
  rw [Exact.div_two, ← EReal.coe_sub, coe_iff, coe_iff]
  constructor <;> constructor <;> linarith

theorem least (hx : OpenUnit x) (hy : OpenUnit y) : OpenUnit (Scalar.least x y) := by
  rw [Exact.least_eq_min]
  exact ⟨lt_min hx.1 hy.1, (min_le_left x y).trans_lt hx.2⟩

end OpenUnit

/-! ### Regions -/

namespace Region

variable {theta d e : ℝ}

theorem around_coe (theta d e : ℝ) :
    Region.around (theta : EReal) d e =
      ⟨((min ((theta + d) * (1 - e)) 1 : ℝ) : EReal),
        ((max (1 - (1 - (theta - d)) * (1 - e)) 0 : ℝ) : EReal)⟩ := by
  have hupper : ((theta : EReal) + d) * (1 - e) = (((theta + d) * (1 - e) : ℝ) : EReal) := by
    push_cast
    rfl
  have hlower : (1 - (1 - ((theta : EReal) - d)) * (1 - e) : EReal)
      = ((1 - (1 - (theta - d)) * (1 - e) : ℝ) : EReal) := by
    push_cast
    rfl
  rw [Region.around, Exact.least_eq_min, Exact.greatest_eq_max, hupper, hlower, ← EReal.coe_one,
    ← EReal.coe_zero, ← EReal.coe_strictMono.monotone.map_min, ← EReal.coe_strictMono.monotone.map_max]

/-- The ends of a region are in order if the error of nested checks leaves room for that. -/
theorem around_le (htheta : 0 ≤ theta) (htheta' : theta ≤ 1) (hd : 0 ≤ d) (he : e ≤ 1)
    (hroom : e * (1 + 2 * d) ≤ 2 * d) :
    (Region.around (theta : EReal) d e).theta1 ≤ (Region.around (theta : EReal) d e).theta0 := by
  rw [around_coe, EReal.coe_le_coe_iff]
  have hupper : 0 ≤ (theta + d) * (1 - e) := mul_nonneg (by linarith) (by linarith)
  have hlower : 0 ≤ (1 - (theta - d)) * (1 - e) := mul_nonneg (by linarith) (by linarith)
  refine max_le (le_min ?_ ?_) (le_min hupper zero_le_one) <;> nlinarith

/-- A region is proper if the error of nested checks leaves something of it. -/
theorem isProper_around (htheta : 0 ≤ theta) (htheta' : theta ≤ 1) (hd : 0 < d) (he : e < 1)
    (hroom : e * (1 + 2 * d) < 2 * d) : (Region.around (theta : EReal) d e).isProper = true := by
  have hupper : 0 < (theta + d) * (1 - e) := mul_pos (by linarith) (by linarith)
  have hlower : 0 < (1 - (theta - d)) * (1 - e) := mul_pos (by linarith) (by linarith)
  have hlt : max (1 - (1 - (theta - d)) * (1 - e)) 0 < min ((theta + d) * (1 - e)) 1 := by
    refine max_lt (lt_min ?_ ?_) (lt_min hupper one_pos) <;> nlinarith
  have hnonneg : (0 : EReal) ≤ ((max (1 - (1 - (theta - d)) * (1 - e)) 0 : ℝ) : EReal) :=
    EReal.coe_nonneg.2 (le_max_right _ _)
  have hle : ((min ((theta + d) * (1 - e)) 1 : ℝ) : EReal) ≤ 1 :=
    EReal.coe_le_coe_iff.2 (min_le_right _ _)
  rw [around_coe, isProper]
  simp only [hnonneg, hle, EReal.coe_lt_coe_iff.2 hlt, decide_true, Bool.and_self]

end Region

/-! ### What constructors assert -/

/-- A proper region within which errors are told apart. -/
def Region.IsProper (r : Region EReal) : Prop := 0 ≤ r.theta1 ∧ r.theta1 < r.theta0 ∧ r.theta0 ≤ 1

theorem Region.isProper_iff {r : Region EReal} : r.isProper = true ↔ r.IsProper := by
  simp [isProper, IsProper, and_assoc]

namespace ThresholdTest

/-- What the constructor of a test asserts of its region and of the parameters. -/
def Admits (algorithm : ThresholdAlgorithm) (r : Region EReal) (p : Params EReal) : Prop :=
  r.theta1 ≤ r.theta0 ∧
    match algorithm with
    | .fixed => 0 < p.fixedSampleSize
    | .ssp | .sprt => r.IsProper ∧ OpenUnit p.alpha ∧ OpenUnit p.beta
    | .chowRobbins => 0 < p.delta ∧ OpenUnit (min p.alpha p.beta)

variable [Distributions EReal] {algorithm : ThresholdAlgorithm} {r : Region EReal} {p : Params EReal}

omit [Distributions EReal] in
theorem isOpenUnit_bounds_iff :
    (Scalar.isOpenUnit p.bounds.alpha && Scalar.isOpenUnit p.bounds.beta) = true ↔
      OpenUnit p.alpha ∧ OpenUnit p.beta := by
  rw [Bool.and_eq_true, isOpenUnit_iff, isOpenUnit_iff]
  rfl

/-- **The constructor of a test refuses what it does not admit, and otherwise at most for want of a
plan.** -/
theorem admits_iff :
    Admits algorithm r p ↔ ∀ f, create algorithm r p = .error f → ∃ k, f = .noPlan k := by
  cases algorithm with
  | fixed =>
    simp only [Admits, create, FixedTest.create]
    split_ifs with hle hsize <;> simp [Except.map, *]
  | ssp =>
    simp only [Admits, create, SingleSamplingTest.create, Plan.create, ← Region.isProper_iff,
      ← isOpenUnit_bounds_iff]
    cases hproper : r.isProper with
    | false => simp [Except.map]
    | true =>
      have hle : r.theta1 ≤ r.theta0 := (Region.isProper_iff.1 hproper).2.1.le
      cases hopen : Scalar.isOpenUnit p.bounds.alpha && Scalar.isOpenUnit p.bounds.beta with
      | false => simp [Except.map]
      | true => cases Plan.firstPower? r p.bounds <;> simp [Except.map, hle]
  | sprt =>
    simp only [Admits, create, RatioTest.create, ← Region.isProper_iff, ← isOpenUnit_bounds_iff]
    cases hproper : r.isProper with
    | false => simp [Except.map]
    | true =>
      have hle : r.theta1 ≤ r.theta0 := (Region.isProper_iff.1 hproper).2.1.le
      cases hopen : Scalar.isOpenUnit p.bounds.alpha && Scalar.isOpenUnit p.bounds.beta <;>
        simp [Except.map, hle]
  | chowRobbins =>
    simp only [Admits, create, IntervalTest.create, IntervalEstimate.create, checkInterval,
      ← isOpenUnit_iff, Exact.least_eq_min]
    split_ifs with hle hdelta hopen <;> simp [Except.map, *]

end ThresholdTest

/-- An interval needs a positive half-width and an error in the open unit interval. -/
theorem checkInterval_eq_ok {delta alpha : EReal} :
    checkInterval delta alpha = .ok () ↔ 0 < delta ∧ OpenUnit alpha := by
  rw [← isOpenUnit_iff]
  unfold checkInterval
  split_ifs <;> simp [*]

/-! ### Valid parameters -/

/-- What is refused in one case has an answer in the other. -/
theorem refuse_eq_ok {ε α : Type} {c : Prop} [Decidable c] {e : ε} {x : Except ε α} {a : α} :
    (if c then .error e else x) = .ok a ↔ ¬c ∧ x = .ok a := by
  split_ifs with hc <;> simp [hc]

namespace Params

variable {p : Params EReal}

theorem validate_eq_ok :
    p.validate = .ok () ↔
      OpenUnit p.alpha ∧ OpenUnit p.beta ∧ 0 ≤ p.delta ∧
        (p.delta = 0 → p.thresholdAlgorithm = .fixed) ∧ 0 < p.epsilon ∧ 0 < p.fixedSampleSize ∧
        ∀ value, p.nestedError = some value → 0 < value ∧ value < maxNestedError p.delta := by
  have hnan (x : EReal) : Scalar.isNaN x = false := rfl
  rw [← isOpenUnit_iff, ← isOpenUnit_iff, Nat.pos_iff_ne_zero]
  unfold validate
  simp only [throw, throwThe, MonadExceptOf.throw, bind, Except.bind, pure, Except.pure,
    refuse_eq_ok]
  cases p.nestedError <;> simp [hnan, Exact.beq_eq_decide]

/-- The parameters that are used where nothing is configured are valid. -/
theorem validate_default : (default : Params EReal).validate = .ok () := by
  have hdecimal (m : ℕ) (e : ℕ) : (OfScientific.ofScientific m true e : EReal)
      = ((OfScientific.ofScientific m true e : ℝ) : EReal) := rfl
  have hopen : OpenUnit (0.01 : EReal) := by
    rw [hdecimal, OpenUnit.coe_iff]
    norm_num
  have hepsilon : (0 : EReal) < 0.000001 := by
    rw [hdecimal]
    exact EReal.coe_pos.2 (by norm_num)
  refine validate_eq_ok.2 ⟨hopen, hopen, hopen.1.le, fun h => (hopen.1.ne' h).elim, hepsilon, ?_, ?_⟩
  · exact Nat.succ_pos 999
  · exact fun value h => (Option.some_ne_none value h.symm).elim

end Params

/-! ### Room for nested checks -/

/-- An error of nested checks that leaves something of every region of half-width `d`, unless the
half-width is zero. -/
structure Leeway (d e : ℝ) : Prop where
  width_nonneg : 0 ≤ d
  error_nonneg : 0 ≤ e
  error_lt_one : e < 1
  room : e * (1 + 2 * d) ≤ 2 * d
  error_pos : 0 < d → 0 < e
  room_lt : 0 < d → e * (1 + 2 * d) < 2 * d

namespace Leeway

variable {d e : ℝ}

/-- Without an indifference region there is no error of nested checks. -/
theorem zero : Leeway 0 0 := by constructor <;> norm_num

/-- An error below the largest one. -/
theorem of_lt (hd : 0 < d) (he : 0 < e) (hlt : e < d / (1 / 2 + d)) : Leeway d e := by
  have hroom : e * (1 + 2 * d) < 2 * d := by
    have := (lt_div_iff₀ (by linarith)).1 hlt
    linarith
  exact ⟨hd.le, he.le, by nlinarith, hroom.le, fun _ => he, fun _ => hroom⟩

variable {theta error : ℝ} (h : Leeway d e) (htheta : 0 ≤ theta) (htheta' : theta ≤ 1)
  (herror : error = 0 ∨ error = e)

include h htheta htheta' herror

theorem around_le :
    (Region.around (theta : EReal) d error).theta1 ≤ (Region.around (theta : EReal) d error).theta0 := by
  rcases herror with rfl | rfl
  · exact Region.around_le htheta htheta' h.width_nonneg zero_le_one (by linarith [h.width_nonneg])
  · exact Region.around_le htheta htheta' h.width_nonneg h.error_lt_one.le h.room

theorem isProper_around (hd : 0 < d) : (Region.around (theta : EReal) d error).isProper = true := by
  rcases herror with rfl | rfl
  · exact Region.isProper_around htheta htheta' hd zero_lt_one (by linarith)
  · exact Region.isProper_around htheta htheta' hd h.error_lt_one (h.room_lt hd)

end Leeway

theorem maxNestedError_coe {d : ℝ} (hd : 0 < d) :
    maxNestedError (d : EReal) = ((d / (1 / 2 + d) : ℝ) : EReal) := by
  rw [maxNestedError, if_pos (EReal.coe_pos.2 hd), Exact.half_eq, ← EReal.coe_add, ← EReal.coe_div]

/-- **The nested error of valid parameters leaves room.** -/
theorem Params.exists_leeway {p : Params EReal} (hp : p.validate = .ok ()) (hdelta : p.delta ≠ ⊤) :
    ∃ d e : ℝ, p.delta = d ∧ p.nestedErrorBound = e ∧ Leeway d e := by
  obtain ⟨-, -, hnonneg, -, -, -, hvalue⟩ := validate_eq_ok.1 hp
  obtain ⟨d, hd⟩ : ∃ d : ℝ, p.delta = d := by
    lift p.delta to ℝ using ⟨hdelta, (EReal.bot_lt_zero.trans_le hnonneg).ne'⟩ with d
    exact ⟨d, rfl⟩
  rw [hd] at hnonneg hvalue
  rcases (EReal.coe_nonneg.1 hnonneg).eq_or_lt with rfl | hpos
  · -- No nested error is valid here, and the derived one is zero.
    have hmax : maxNestedError ((0 : ℝ) : EReal) = 0 := if_neg (lt_irrefl _)
    refine ⟨0, 0, hd, ?_, .zero⟩
    cases hnested : p.nestedError with
    | none => rw [nestedErrorBound, hnested, hd, hmax, Option.getD_none, mul_zero, EReal.coe_zero]
    | some value =>
      obtain ⟨hlow, hhigh⟩ := hvalue value hnested
      rw [hmax] at hhigh
      exact (hlow.trans hhigh).false.elim
  · have hmaxpos : 0 < d / (1 / 2 + d) := by positivity
    cases hnested : p.nestedError with
    | none =>
      have hbound : p.nestedErrorBound = ((0.8 * (d / (1 / 2 + d)) : ℝ) : EReal) := by
        rw [nestedErrorBound, hnested, hd, maxNestedError_coe hpos, Option.getD_none, EReal.coe_mul]
        rfl
      exact ⟨d, _, hd, hbound, .of_lt hpos (by positivity) (by linarith)⟩
    | some value =>
      obtain ⟨hlow, hhigh⟩ := hvalue value hnested
      rw [maxNestedError_coe hpos] at hhigh
      lift value to ℝ using ⟨hhigh.ne_top, (EReal.bot_lt_zero.trans hlow).ne'⟩
      refine ⟨d, value, hd, by rw [nestedErrorBound, hnested, Option.getD_some], .of_lt hpos ?_ ?_⟩
      · exact EReal.coe_pos.1 hlow
      · exact EReal.coe_lt_coe_iff.1 hhigh

end SimCheck
