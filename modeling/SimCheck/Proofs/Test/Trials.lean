import Mathlib.Algebra.BigOperators.Fin
import SimCheck.Proofs.Test.Binomial

/-!
# Independent observations

A sequence of independent observations, each positive with probability `p`, has as its probability the
product of those of its observations.  The probability of an event among the sequences of a length is
the sum over the sequences that belong to it.

* `Exact.probability_succ`: it splits by the first observation;
* `Exact.IsLower.probability_anti`, `Exact.IsUpper.probability_mono`: events that survive a change of
  observations in one direction change their probability with `p` in that direction;
* `Exact.Latches.monotone`: a verdict that is kept survives such a change if its rule does;
* `Exact.probability_count_le`: few positive observations are as likely as the binomial distribution
  has it.
-/

namespace SimCheck.Exact

/-! ### Sequences and events -/

/-- The probability of a sequence of independent observations. -/
noncomputable def mass (p : ℝ) (bs : List Bool) : ℝ := (bs.map fun b => if b then p else 1 - p).prod

open Classical in
/-- The probability that `n` independent observations, each positive with probability `p`, are a
sequence of the event. -/
noncomputable def probability (p : ℝ) (n : ℕ) (E : List Bool → Prop) : ℝ :=
  ∑ f : Fin n → Bool, if E (List.ofFn f) then mass p (List.ofFn f) else 0

section

variable {p q : ℝ} {n : ℕ} {E E' : List Bool → Prop}

@[simp] theorem mass_nil (p : ℝ) : mass p [] = 1 := rfl

theorem mass_cons (p : ℝ) (b : Bool) (bs : List Bool) :
    mass p (b :: bs) = (if b then p else 1 - p) * mass p bs := by
  simp [mass]

theorem mass_append (p : ℝ) (bs cs : List Bool) : mass p (bs ++ cs) = mass p bs * mass p cs := by
  simp [mass]

theorem mass_nonneg (hp : 0 ≤ p) (hp' : p ≤ 1) (bs : List Bool) : 0 ≤ mass p bs := by
  induction bs with
  | nil => simp
  | cons b bs ih =>
    rw [mass_cons]
    have hp' : 0 ≤ 1 - p := sub_nonneg.2 hp'
    cases b
    · simpa using mul_nonneg hp' ih
    · simpa using mul_nonneg hp ih

/-- The probability of a sequence by its numbers of positive and negative observations. -/
theorem mass_eq_pow (p : ℝ) (bs : List Bool) :
    mass p bs = p ^ bs.count true * (1 - p) ^ bs.count false := by
  induction bs with
  | nil => simp
  | cons b bs ih =>
    rw [mass_cons, ih]
    cases b <;> simp [pow_succ] <;> ring

open Classical in
/-- No observation decides nothing. -/
theorem probability_zero (p : ℝ) (E : List Bool → Prop) :
    probability p 0 E = if E [] then 1 else 0 := by
  simp [probability]

/-- The first observation is positive or negative. -/
theorem probability_succ (p : ℝ) (n : ℕ) (E : List Bool → Prop) :
    probability p (n + 1) E = p * probability p n (fun bs => E (true :: bs))
      + (1 - p) * probability p n (fun bs => E (false :: bs)) := by
  classical
  unfold probability
  rw [← (Fin.consEquiv fun _ => Bool).sum_comp, Fintype.sum_prod_type, Fintype.sum_bool,
    Finset.mul_sum, Finset.mul_sum]
  simp [Fin.consEquiv, List.ofFn_succ, mass_cons]

theorem probability_nonneg (hp : 0 ≤ p) (hp' : p ≤ 1) (n : ℕ) (E : List Bool → Prop) :
    0 ≤ probability p n E := by
  refine Finset.sum_nonneg fun f _ => ?_
  split_ifs
  · exact mass_nonneg hp hp' _
  · exact le_rfl

theorem probability_mono (hp : 0 ≤ p) (hp' : p ≤ 1) (h : ∀ bs, bs.length = n → E bs → E' bs) :
    probability p n E ≤ probability p n E' := by
  refine Finset.sum_le_sum fun f _ => ?_
  by_cases hE : E (List.ofFn f)
  · rw [if_pos hE, if_pos (h _ List.length_ofFn hE)]
  · rw [if_neg hE]
    split_ifs
    · exact mass_nonneg hp hp' _
    · exact le_rfl

theorem probability_true (p : ℝ) (n : ℕ) : probability p n (fun _ => True) = 1 := by
  induction n with
  | zero => simp [probability_zero]
  | succ n ih => rw [probability_succ, ih]; ring

theorem probability_false (p : ℝ) (n : ℕ) : probability p n (fun _ => False) = 0 := by
  simp [probability]

theorem probability_not (p : ℝ) (n : ℕ) (E : List Bool → Prop) :
    probability p n (fun bs => ¬E bs) = 1 - probability p n E := by
  have hsum : probability p n (fun bs => ¬E bs) + probability p n E = 1 := by
    rw [← probability_true p n, probability, probability, probability, ← Finset.sum_add_distrib]
    refine Finset.sum_congr rfl fun f _ => ?_
    by_cases hE : E (List.ofFn f) <;> simp [hE]
  linarith

theorem probability_le_one (hp : 0 ≤ p) (hp' : p ≤ 1) (n : ℕ) (E : List Bool → Prop) :
    probability p n E ≤ 1 := by
  have hnot := probability_nonneg hp hp' n fun bs => ¬E bs
  rw [probability_not] at hnot
  linarith

end

/-! ### Events that survive a change of observations -/

/-- An event that survives when positive observations turn negative. -/
def IsLower (E : List Bool → Prop) : Prop :=
  ∀ ⦃bs cs : List Bool⦄, List.Forall₂ (· ≤ ·) bs cs → E cs → E bs

/-- An event that survives when negative observations turn positive. -/
def IsUpper (E : List Bool → Prop) : Prop :=
  ∀ ⦃bs cs : List Bool⦄, List.Forall₂ (· ≤ ·) bs cs → E bs → E cs

theorem forall₂_le_refl (bs : List Bool) : List.Forall₂ (· ≤ ·) bs bs :=
  List.forall₂_same.2 fun _ _ => le_rfl

/-- The last observations of two sequences compare as the sequences do. -/
theorem exists_append_of_forall₂ {b : Bool} {bs cs : List Bool}
    (h : List.Forall₂ (· ≤ ·) (bs ++ [b]) cs) :
    ∃ ds d, cs = ds ++ [d] ∧ List.Forall₂ (· ≤ ·) bs ds := by
  rw [← List.forall₂_reverse_iff, List.reverse_append, List.reverse_singleton,
    List.singleton_append, List.forall₂_cons_left_iff] at h
  obtain ⟨d, ds, -, hds, hcs⟩ := h
  refine ⟨ds.reverse, d, ?_, ?_⟩
  · rw [← cs.reverse_reverse, hcs, List.reverse_cons]
  · rwa [← List.forall₂_reverse_iff, List.reverse_reverse]

section

variable {p q : ℝ} {E : List Bool → Prop}

theorem IsLower.cons (h : IsLower E) (b : Bool) : IsLower fun bs => E (b :: bs) :=
  fun _ _ hle => h (.cons le_rfl hle)

theorem IsUpper.not (h : IsUpper E) : IsLower fun bs => ¬E bs :=
  fun _ _ hle hcs hbs => hcs (h hle hbs)

/-- **An event that survives when positive observations turn negative is less likely the more likely
positive observations are.** -/
theorem IsLower.probability_anti (h : IsLower E) (hp : 0 ≤ p) (hpq : p ≤ q) (hq : q ≤ 1) (n : ℕ) :
    probability q n E ≤ probability p n E := by
  induction n generalizing E with
  | zero => rw [probability_zero, probability_zero]
  | succ n ih =>
    have htrue := ih (h.cons true)
    have hfalse := ih (h.cons false)
    -- With the same observations after it, a negative one leaves the event at least as likely.
    have hfirst : probability p n (fun bs => E (true :: bs))
        ≤ probability p n (fun bs => E (false :: bs)) :=
      probability_mono hp (hpq.trans hq) fun bs _ =>
        h (.cons (Bool.false_le true) (forall₂_le_refl bs))
    rw [probability_succ, probability_succ]
    have hq0 : 0 ≤ q := hp.trans hpq
    calc q * probability q n (fun bs => E (true :: bs))
          + (1 - q) * probability q n (fun bs => E (false :: bs))
        ≤ q * probability p n (fun bs => E (true :: bs))
          + (1 - q) * probability p n (fun bs => E (false :: bs)) :=
          add_le_add (mul_le_mul_of_nonneg_left htrue hq0)
            (mul_le_mul_of_nonneg_left hfalse (sub_nonneg.2 hq))
      _ ≤ p * probability p n (fun bs => E (true :: bs))
          + (1 - p) * probability p n (fun bs => E (false :: bs)) := by
          nlinarith [mul_nonneg (sub_nonneg.2 hpq) (sub_nonneg.2 hfirst)]

theorem IsUpper.probability_mono (h : IsUpper E) (hp : 0 ≤ p) (hpq : p ≤ q) (hq : q ≤ 1) (n : ℕ) :
    probability p n E ≤ probability q n E := by
  have hnot := h.not.probability_anti hp hpq hq n
  rw [probability_not, probability_not] at hnot
  linarith

end

/-! ### Verdicts that are kept -/

/-- A verdict that a rule reaches after an observation and that is kept from then on. -/
structure Latches (rule verdict : List Bool → Option Bool) : Prop where
  kept : ∀ bs b v, verdict bs = some v → verdict (bs ++ [b]) = some v
  judged : ∀ bs b, verdict bs = none → verdict (bs ++ [b]) = rule (bs ++ [b])

/-- **A verdict does not turn against positive observations if its rule does not**, although of two
sequences one may be decided long before the other. -/
theorem Latches.monotone {rule verdict : List Bool → Option Bool} (h : Latches rule verdict)
    (hlower : IsLower fun bs => rule bs = some false)
    (hupper : IsUpper fun bs => rule bs = some true) {bs cs : List Bool}
    (hle : List.Forall₂ (· ≤ ·) bs cs) :
    (verdict cs = some false → verdict bs = some false) ∧
      (verdict bs = some true → verdict cs = some true) := by
  induction bs using List.reverseRecOn generalizing cs with
  | nil =>
    rw [List.forall₂_nil_left_iff] at hle
    rw [hle]
    exact ⟨id, id⟩
  | append_singleton bs b ih =>
    obtain ⟨cs, c, rfl, hle'⟩ := exists_append_of_forall₂ hle
    obtain ⟨hrejected, haccepted⟩ := ih hle'
    cases hbs : verdict bs with
    | some v =>
      have hbs' := h.kept bs b v hbs
      cases v with
      | false => simp [hbs']
      | true => simp [h.kept cs c true (haccepted hbs)]
    | none =>
      cases hcs : verdict cs with
      | some v =>
        have hcs' := h.kept cs c v hcs
        cases v with
        | false => exact absurd (hrejected hcs) (by simp [hbs])
        | true => simp [hcs']
      | none =>
        -- Neither has been decided before, and the rule judges both.
        rw [h.judged bs b hbs, h.judged cs c hcs]
        exact ⟨fun hfalse => hlower hle hfalse, fun htrue => hupper hle htrue⟩

/-! ### Counting positive observations -/

theorem count_true_le {bs cs : List Bool} (h : List.Forall₂ (· ≤ ·) bs cs) :
    bs.count true ≤ cs.count true := by
  induction h with
  | nil => exact le_rfl
  | @cons b c bs cs hle _ ih =>
    cases b <;> cases c
    · simpa using ih
    · simpa using ih.trans (Nat.le_succ _)
    · exact absurd hle (by decide)
    · simpa using ih

theorem isLower_count_le (k : ℕ) : IsLower fun bs => bs.count true ≤ k :=
  fun _ _ hle hcs => (count_true_le hle).trans hcs

/-- **The positive ones among independent observations are counted by the binomial
distribution.** -/
theorem probability_count_le (p : ℝ) (n k : ℕ) :
    probability p n (fun bs => bs.count true ≤ k) = binomialTail k n p := by
  induction n generalizing k with
  | zero => simp [probability_zero, binomialTail_of_le]
  | succ n ih =>
    rw [probability_succ, binomialTail_succ_size]
    cases k with
    | zero =>
      have hnone : probability p n (fun bs => (true :: bs).count true ≤ 0) = 0 := by
        simp [probability_false]
      have hrest : probability p n (fun bs => (false :: bs).count true ≤ 0) = binomialTail 0 n p := by
        simpa using ih 0
      have hmass : binomialTail 0 n p = binomialMass 0 n p := by simp [binomialTail]
      rw [hnone, hrest, hmass]
      ring
    | succ k =>
      have htrue : probability p n (fun bs => (true :: bs).count true ≤ k + 1)
          = binomialTail k n p := by
        simpa using ih k
      have hfalse : probability p n (fun bs => (false :: bs).count true ≤ k + 1)
          = binomialTail (k + 1) n p := by
        simpa using ih (k + 1)
      rw [htrue, hfalse, binomialTail_succ]
      ring

/-- At most so many positive observations are less likely the more likely each of them is. -/
theorem binomialTail_anti_probability {p q : ℝ} (hp : 0 ≤ p) (hpq : p ≤ q) (hq : q ≤ 1) (k n : ℕ) :
    binomialTail k n q ≤ binomialTail k n p := by
  rw [← probability_count_le, ← probability_count_le]
  exact (isLower_count_le k).probability_anti hp hpq hq n

end SimCheck.Exact
