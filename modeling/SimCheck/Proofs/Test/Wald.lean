import SimCheck.Proofs.Test.Likelihood

/-!
# Errors of the ratio test

The observations are independent.  A verdict compares the probabilities of the observations so far at
the two ends of the region, and so it bounds the probability of the verdict at one end by that at the
other one; in between no verdict is lost, for a verdict that has been reached is kept.

* `Exact.reaching_le`: the change of measure, summed over the sequences on which a verdict is reached;
* `RatioTest.isLower_rejected`, `RatioTest.isUpper_accepted`: more positive observations do not turn an
  acceptance into a rejection;
* `RatioTest.errors_within`: the probabilities of either error within any number of observations.
-/

namespace SimCheck

/-! ### A change of measure -/

namespace Exact

/-- The probability of a history that is followed by `n` observations after which there is the
verdict. -/
noncomputable def reaching (verdict : List Bool → Option Bool) (v : Bool) (p : ℝ) (n : ℕ)
    (hs : List Bool) : ℝ :=
  mass p hs * probability p n fun bs => verdict (hs ++ bs) = some v

section

variable {verdict : List Bool → Option Bool} {v : Bool} {p q c : ℝ} {hs : List Bool}

theorem reaching_succ (verdict : List Bool → Option Bool) (v : Bool) (p : ℝ) (n : ℕ)
    (hs : List Bool) :
    reaching verdict v p (n + 1) hs
      = reaching verdict v p n (hs ++ [true]) + reaching verdict v p n (hs ++ [false]) := by
  simp only [reaching, probability_succ, mass_append, mass_cons, mass_nil, List.append_assoc,
    List.cons_append, List.nil_append, if_true, Bool.false_eq_true, if_false]
  ring

/-- A verdict that is kept after one observation is kept. -/
theorem verdict_append (hkept : ∀ bs b w, verdict bs = some w → verdict (bs ++ [b]) = some w)
    {w : Bool} (h : verdict hs = some w) (bs : List Bool) : verdict (hs ++ bs) = some w := by
  induction bs generalizing hs with
  | nil => simpa using h
  | cons b bs ih => simpa using ih (hkept hs b w h)

/-- Once there is a verdict the probability is that of the history, or zero. -/
theorem reaching_of_some (hkept : ∀ bs b w, verdict bs = some w → verdict (bs ++ [b]) = some w)
    {w : Bool} (h : verdict hs = some w) (n : ℕ) :
    reaching verdict v p n hs = if w = v then mass p hs else 0 := by
  rw [reaching]
  simp only [verdict_append hkept h, Option.some_inj]
  split_ifs with hv
  · simp [hv, probability_true]
  · simp [hv, probability_false]

/-- **A change of measure.**  If a sequence on which the verdict is reached is at most `c` times as
likely at `p` as it is at `q`, then so is the verdict. -/
theorem reaching_le (hkept : ∀ bs b w, verdict bs = some w → verdict (bs ++ [b]) = some w)
    (hreached : ∀ bs b, verdict bs = none → verdict (bs ++ [b]) = some v →
      mass p (bs ++ [b]) ≤ c * mass q (bs ++ [b]))
    (n : ℕ) (h : verdict hs = none) :
    reaching verdict v p n hs ≤ c * reaching verdict v q n hs := by
  induction n generalizing hs with
  | zero => simp [reaching, probability_zero, h]
  | succ n ih =>
    have hstep (b : Bool) :
        reaching verdict v p n (hs ++ [b]) ≤ c * reaching verdict v q n (hs ++ [b]) := by
      cases hb : verdict (hs ++ [b]) with
      | none => exact ih hb
      | some w =>
        rw [reaching_of_some hkept hb, reaching_of_some hkept hb]
        split_ifs with hv
        · exact hreached hs b h (hv ▸ hb)
        · simp
    rw [reaching_succ, reaching_succ, mul_add]
    exact add_le_add (hstep true) (hstep false)

end

end Exact

/-! ### Verdicts along a sequence -/

namespace RatioTest

section

variable {R : Type} [Scalar R] {t : RatioTest R} {v : Bool} {bs : List Bool}

/-- The verdict after the observations. -/
def verdictAfter (t : RatioTest R) (bs : List Bool) : Option Bool := (bs.foldl push t).verdict

/-- The verdict is reached within the observations. -/
def ReachesWithin (t : RatioTest R) (v : Bool) (bs : List Bool) : Prop :=
  ∃ cs, cs <+: bs ∧ t.verdictAfter cs = some v

theorem verdictAfter_append_singleton (t : RatioTest R) (bs : List Bool) (b : Bool) :
    t.verdictAfter (bs ++ [b]) = ((bs.foldl push t).push b).verdict := by
  simp [verdictAfter]

theorem verdictAfter_kept (t : RatioTest R) (bs : List Bool) (b v : Bool)
    (h : t.verdictAfter bs = some v) : t.verdictAfter (bs ++ [b]) = some v :=
  (verdictAfter_append_singleton t bs b).trans (verdict_push_of_some h b)

theorem limits_foldl (t : RatioTest R) (bs : List Bool) :
    (bs.foldl push t).limits = t.limits := by
  induction bs generalizing t with
  | nil => rfl
  | cons b bs ih => exact (ih (t.push b)).trans (limits_update _)

theorem sample_foldl (t : RatioTest R) (bs : List Bool) :
    (bs.foldl push t).sample = bs.foldl Sample.pushBool t.sample := by
  induction bs generalizing t with
  | nil => rfl
  | cons b bs ih =>
    rw [List.foldl_cons, ih, push, sample_update, List.foldl_cons]

/-- A new test that is undecided judges its sequence after the next observation. -/
theorem verdictAfter_of_none (hsample : t.sample = ∅) (h : t.verdictAfter bs = none) (b : Bool) :
    t.verdictAfter (bs ++ [b])
      = t.limits.judge (t.limits.statistic (Sample.ofBools (bs ++ [b]))) := by
  rw [verdictAfter_append_singleton, verdict_push_of_none h, limits_foldl, sample_foldl, hsample,
    Sample.ofBools_append]
  rfl

/-- A verdict is reached within the observations if it is there after them. -/
theorem reachesWithin_iff : t.ReachesWithin v bs ↔ t.verdictAfter bs = some v := by
  constructor
  · rintro ⟨cs, ⟨ds, rfl⟩, h⟩
    exact Exact.verdict_append t.verdictAfter_kept h ds
  · exact fun h => ⟨bs, List.prefix_rfl, h⟩

end

/-! ### The errors -/

section

open RatioLimits (Admissible ofReals rejectOdds acceptOdds)

variable {theta0 theta1 alpha beta : ℝ} {t : RatioTest EReal}

/-- A new test with limits of real numbers. -/
structure IsNew (t : RatioTest EReal) (theta0 theta1 alpha beta : ℝ) : Prop where
  limits : t.limits = ofReals theta0 theta1 alpha beta
  sample : t.sample = ∅
  verdict : t.verdict = none

theorem exists_create (h : Admissible theta0 theta1 alpha beta) :
    ∃ t, create ⟨(theta0 : EReal), theta1⟩ ⟨alpha, beta⟩ = .ok t ∧
      t.IsNew theta0 theta1 alpha beta := by
  refine ⟨_, create_eq_ok.2 ⟨⟨?_, ?_⟩, rfl⟩, rfl, rfl, rfl⟩
  · have hless : (theta1 : EReal) < theta0 := EReal.coe_lt_coe_iff.2 h.theta1_lt
    have hle : (theta0 : EReal) ≤ 1 := EReal.coe_le_coe_iff.2 h.theta0_le
    simp [Region.isProper, EReal.coe_nonneg.2 h.theta1_nonneg, hless, hle]
  · rw [Turnabout.isOpenUnit_coe h.alpha_pos h.alpha_lt,
      Turnabout.isOpenUnit_coe h.beta_pos h.beta_lt, Bool.and_self]

section

variable (h : Admissible theta0 theta1 alpha beta) (ht : t.IsNew theta0 theta1 alpha beta)
include h ht

omit h in
theorem latches : Exact.Latches
    (fun bs => (ofReals theta0 theta1 alpha beta).judge
      ((ofReals theta0 theta1 alpha beta).statistic (Sample.ofBools bs))) t.verdictAfter where
  kept := t.verdictAfter_kept
  judged _ b hnone := (verdictAfter_of_none ht.sample hnone b).trans (by rw [ht.limits])

theorem isLower_rejected : Exact.IsLower fun bs => t.verdictAfter bs = some false :=
  fun _ _ hle => ((latches ht).monotone h.isLower_judge h.isUpper_judge hle).1

theorem isUpper_accepted : Exact.IsUpper fun bs => t.verdictAfter bs = some true :=
  fun _ _ hle => ((latches ht).monotone h.isLower_judge h.isUpper_judge hle).2

/-- A rejection is not much more likely at `theta0` than at `theta1`. -/
theorem rejected_theta0_le (n : ℕ) :
    Exact.probability theta0 n (fun bs => t.verdictAfter bs = some false)
      ≤ rejectOdds theta1 alpha beta
        * Exact.probability theta1 n (fun bs => t.verdictAfter bs = some false) := by
  have hreached (bs : List Bool) (b : Bool) (hnone : t.verdictAfter bs = none)
      (hrejected : t.verdictAfter (bs ++ [b]) = some false) :
      Exact.mass theta0 (bs ++ [b])
        ≤ rejectOdds theta1 alpha beta * Exact.mass theta1 (bs ++ [b]) := by
    rw [verdictAfter_of_none ht.sample hnone, ht.limits] at hrejected
    exact h.mass_le_of_rejects hrejected
  simpa [Exact.reaching] using
    Exact.reaching_le t.verdictAfter_kept hreached n (show t.verdictAfter [] = none from ht.verdict)

/-- An acceptance is not much more likely at `theta1` than at `theta0`. -/
theorem accepted_theta1_le (n : ℕ) :
    Exact.probability theta1 n (fun bs => t.verdictAfter bs = some true)
      ≤ acceptOdds theta0 alpha beta
        * Exact.probability theta0 n (fun bs => t.verdictAfter bs = some true) := by
  have hreached (bs : List Bool) (b : Bool) (hnone : t.verdictAfter bs = none)
      (haccepted : t.verdictAfter (bs ++ [b]) = some true) :
      Exact.mass theta1 (bs ++ [b])
        ≤ acceptOdds theta0 alpha beta * Exact.mass theta0 (bs ++ [b]) := by
    rw [verdictAfter_of_none ht.sample hnone, ht.limits] at haccepted
    exact h.mass_le_of_accepts haccepted
  simpa [Exact.reaching] using
    Exact.reaching_le t.verdictAfter_kept hreached n (show t.verdictAfter [] = none from ht.verdict)

theorem rejected_le {p : ℝ} (hp : theta0 ≤ p) (hp' : p ≤ 1) (n : ℕ) :
    Exact.probability p n (fun bs => t.verdictAfter bs = some false)
      ≤ rejectOdds theta1 alpha beta := by
  have hmono := (isLower_rejected h ht).probability_anti h.theta0_pos.le hp hp' n
  have hone := Exact.probability_le_one h.theta1_nonneg h.theta1_lt_one.le n
    (fun bs => t.verdictAfter bs = some false)
  exact hmono.trans ((rejected_theta0_le h ht n).trans
    (mul_le_of_le_one_right h.rejectOdds_pos.le hone))

theorem accepted_le {p : ℝ} (hp : 0 ≤ p) (hp' : p ≤ theta1) (n : ℕ) :
    Exact.probability p n (fun bs => t.verdictAfter bs = some true)
      ≤ acceptOdds theta0 alpha beta := by
  have hmono := (isUpper_accepted h ht).probability_mono hp hp' h.theta1_lt_one.le n
  have hone := Exact.probability_le_one h.theta0_pos.le h.theta0_le n
    (fun bs => t.verdictAfter bs = some true)
  exact hmono.trans ((accepted_theta1_le h ht n).trans
    (mul_le_of_le_one_right h.acceptOdds_pos.le hone))

omit h ht in
/-- No sequence is both rejected and accepted. -/
theorem rejected_add_accepted_le_one {p : ℝ} (hp : 0 ≤ p) (hp' : p ≤ 1) (t : RatioTest EReal)
    (n : ℕ) :
    Exact.probability p n (fun bs => t.verdictAfter bs = some false)
      + Exact.probability p n (fun bs => t.verdictAfter bs = some true) ≤ 1 := by
  have hdisjoint : Exact.probability p n (fun bs => t.verdictAfter bs = some false)
      ≤ Exact.probability p n (fun bs => ¬t.verdictAfter bs = some true) :=
    Exact.probability_mono hp hp' fun bs _ hfalse => by simp [hfalse]
  rw [Exact.probability_not] at hdisjoint
  linarith

/-- Inside the unit interval the errors at the ends of the region add up to no more than the error
bounds do. -/
theorem rejected_add_accepted_le (hpos : 0 < theta1) (hless : theta0 < 1) (n : ℕ) :
    Exact.probability theta0 n (fun bs => t.verdictAfter bs = some false)
      + Exact.probability theta1 n (fun bs => t.verdictAfter bs = some true) ≤ alpha + beta := by
  have hrejected := rejected_theta0_le h ht n
  have haccepted := accepted_theta1_le h ht n
  rw [rejectOdds, if_pos hpos, div_mul_eq_mul_div, le_div_iff₀ h.one_sub_beta_pos] at hrejected
  rw [acceptOdds, if_pos hless, div_mul_eq_mul_div, le_div_iff₀ h.one_sub_alpha_pos] at haccepted
  have htheta0 := rejected_add_accepted_le_one h.theta0_pos.le h.theta0_le t n
  have htheta1 := rejected_add_accepted_le_one h.theta1_nonneg h.theta1_lt_one.le t n
  generalize Exact.probability theta0 n (fun bs => t.verdictAfter bs = some false) = a at *
  generalize Exact.probability theta1 n (fun bs => t.verdictAfter bs = some true) = b at *
  have hcorrect := mul_le_mul_of_nonneg_left htheta1 h.alpha_pos.le
  have hcorrect' := mul_le_mul_of_nonneg_left htheta0 h.beta_pos.le
  linarith

end

/-- **The error bounds hold for the ratio test.**  If an observation is positive with a probability of
at least `theta0`, the test is rejected within `n` observations with a probability of at most
`alpha / (1 - beta)`; if it is positive with a probability of at most `theta1`, the test is accepted
within `n` observations with a probability of at most `beta / (1 - alpha)`.  At the ends of the unit
interval the bounds themselves hold, and inside it the two errors add up to no more than they do. -/
theorem errors_within (htheta1 : 0 ≤ theta1) (hlt : theta1 < theta0) (htheta0 : theta0 ≤ 1)
    (halpha : 0 < alpha) (halpha' : alpha < 1) (hbeta : 0 < beta) (hbeta' : beta < 1) :
    ∃ t, create ⟨(theta0 : EReal), theta1⟩ ⟨alpha, beta⟩ = .ok t ∧ ∀ n : ℕ,
      (∀ p, theta0 ≤ p → p ≤ 1 →
        Exact.probability p n (t.ReachesWithin false) ≤ alpha / (1 - beta) ∧
          (theta1 = 0 → Exact.probability p n (t.ReachesWithin false) ≤ alpha)) ∧
      (∀ p, 0 ≤ p → p ≤ theta1 →
        Exact.probability p n (t.ReachesWithin true) ≤ beta / (1 - alpha) ∧
          (theta0 = 1 → Exact.probability p n (t.ReachesWithin true) ≤ beta)) ∧
      (0 < theta1 → theta0 < 1 →
        Exact.probability theta0 n (t.ReachesWithin false)
          + Exact.probability theta1 n (t.ReachesWithin true) ≤ alpha + beta) := by
  have h : Admissible theta0 theta1 alpha beta :=
    ⟨htheta1, hlt, htheta0, halpha, halpha', hbeta, hbeta'⟩
  obtain ⟨t, hcreate, ht⟩ := exists_create h
  have hreaches (v : Bool) : t.ReachesWithin v = fun bs => t.verdictAfter bs = some v :=
    funext fun bs => propext reachesWithin_iff
  refine ⟨t, hcreate, fun n => ?_⟩
  rw [hreaches, hreaches]
  refine ⟨fun p hp hp' => ?_, fun p hp hp' => ?_, fun hpos hless => ?_⟩
  · have hrejected := rejected_le h ht hp hp' n
    exact ⟨hrejected.trans h.rejectOdds_le, fun hzero => hrejected.trans_eq (if_neg hzero.not_gt)⟩
  · have haccepted := accepted_le h ht hp hp' n
    exact ⟨haccepted.trans h.acceptOdds_le, fun hone => haccepted.trans_eq (if_neg hone.not_lt)⟩
  · exact rejected_add_accepted_le h ht hpos hless n

end

/-- A region in the middle of the unit interval, and bounds of one tenth. -/
theorem errors_within_tenth :
    ∃ t, create ⟨((3 / 4 : ℝ) : EReal), (1 / 4 : ℝ)⟩ ⟨(1 / 10 : ℝ), (1 / 10 : ℝ)⟩ = .ok t ∧ ∀ n : ℕ,
      Exact.probability (4 / 5) n (t.ReachesWithin false) ≤ 1 / 9 ∧
      Exact.probability (1 / 5) n (t.ReachesWithin true) ≤ 1 / 9 ∧
      Exact.probability (3 / 4) n (t.ReachesWithin false)
        + Exact.probability (1 / 4) n (t.ReachesWithin true) ≤ 1 / 5 := by
  obtain ⟨t, hcreate, hbounds⟩ := errors_within (show (0 : ℝ) ≤ 1 / 4 by norm_num)
    (show (1 / 4 : ℝ) < 3 / 4 by norm_num) (by norm_num) (show (0 : ℝ) < 1 / 10 by norm_num)
    (by norm_num) (show (0 : ℝ) < 1 / 10 by norm_num) (by norm_num)
  refine ⟨t, hcreate, fun n => ?_⟩
  obtain ⟨hrejected, haccepted, hsum⟩ := hbounds n
  refine ⟨?_, ?_, ?_⟩
  · exact (hrejected (4 / 5) (by norm_num) (by norm_num)).1.trans_eq (by norm_num)
  · exact (haccepted (1 / 5) (by norm_num) (by norm_num)).1.trans_eq (by norm_num)
  · exact (hsum (by norm_num) (by norm_num)).trans_eq (by norm_num)

end RatioTest

end SimCheck
