import SimCheck.Proofs.ErrorBudget.Account

/-!
# How the bounds are divided

A check divides its error bounds among the tests of a tree: a negation swaps them, a conjunction
shares out `α` and a disjunction `β`, a chain of equivalences shares out the smaller of the two.

* `ErrorBounds.share` and the lemmas beside it: the shares add up to the bound that is shared;
* `ErrsWithin.junction`, `ErrsWithin.equivalence`: the tests to blame for a wrong verdict on a
  combination cost no more than the bound of the combination;
* `errsWithin_decide`: so it is for every tree, by induction.
-/

namespace SimCheck

variable {G S : Type}

/-! ### Shares of the bounds -/

namespace ErrorBounds

/-- The bounds for each of `k` tests in a conjunction, if `conjunctive`, or else in a
disjunction. -/
noncomputable def share (b : ErrorBounds ℝ) (conjunctive : Bool) (k : ℕ) : ErrorBounds ℝ :=
  if conjunctive then ⟨b.alpha / k, b.beta⟩ else ⟨b.alpha, b.beta / k⟩

variable {b : ErrorBounds ℝ} {k : ℕ}

theorem exact_share (b : ErrorBounds ℝ) (conjunctive : Bool) (k : ℕ) :
    (b.share conjunctive k).exact
      = if conjunctive then b.exact.shareAlpha k else b.exact.shareBeta k := by
  cases conjunctive
  · exact congrArg (ErrorBounds.mk _) (Exact.div_natCast b.beta k).symm
  · exact congrArg (ErrorBounds.mk · _) (Exact.div_natCast b.alpha k).symm

theorem exact_shareLeast (b : ErrorBounds ℝ) (k : ℕ) :
    b.exact.shareLeast k = (both (min b.alpha b.beta / k)).exact := by
  have h : Scalar.least (b.alpha : EReal) b.beta = (min b.alpha b.beta : ℝ) := by
    rw [Exact.least_eq_min, EReal.coe_strictMono.monotone.map_min]
  show both (Scalar.least (b.alpha : EReal) b.beta / Scalar.toNatCast.natCast k) = _
  rw [h, Exact.div_natCast]
  rfl

theorem Proper.swap (h : b.Proper) : b.swap.Proper := ⟨h.beta, h.alpha⟩

theorem div_proper {a : ℝ} (ha : 0 < a ∧ a < 1) (hk : 0 < k) : 0 < a / k ∧ a / k < 1 := by
  have hk' : (1 : ℝ) ≤ k := by exact_mod_cast hk
  exact ⟨div_pos ha.1 (by linarith), (div_le_self ha.1.le hk').trans_lt ha.2⟩

theorem Proper.share (h : b.Proper) (conjunctive : Bool) (hk : 0 < k) :
    (b.share conjunctive k).Proper := by
  cases conjunctive
  · exact ⟨h.alpha, div_proper h.beta hk⟩
  · exact ⟨div_proper h.alpha hk, h.beta⟩

theorem Proper.both_min (h : b.Proper) (hk : 0 < k) : (both (min b.alpha b.beta / k)).Proper := by
  have hmin : 0 < min b.alpha b.beta ∧ min b.alpha b.beta < 1 :=
    ⟨lt_min h.alpha.1 h.beta.1, (min_le_left _ _).trans_lt h.alpha.2⟩
  exact ⟨div_proper hmin hk, div_proper hmin hk⟩

theorem risk_share_decisive (b : ErrorBounds ℝ) (conjunctive : Bool) (k : ℕ) :
    (b.share conjunctive k).risk (!conjunctive) = b.risk (!conjunctive) := by
  cases conjunctive <;> rfl

theorem mul_risk_share (b : ErrorBounds ℝ) (conjunctive : Bool) (hk : 0 < k) :
    k * (b.share conjunctive k).risk conjunctive = b.risk conjunctive := by
  have hk' : (k : ℝ) ≠ 0 := by exact_mod_cast hk.ne'
  cases conjunctive <;> simp only [share, risk] <;> simp <;> field_simp

theorem min_le_risk (b : ErrorBounds ℝ) (v : Bool) : min b.alpha b.beta ≤ b.risk v := by
  cases v
  · exact min_le_right _ _
  · exact min_le_left _ _

end ErrorBounds

/-! ### Combinations -/

/-- Within any bounds the operand answers `v` up to its bound; without thresholds, up to nothing. -/
def Operand.Errs (t : Site → Bool) (o : Operand (Recording EReal G S)) (v : Bool) : Prop :=
  ∀ b : ErrorBounds ℝ, b.Proper → ErrsWithin t b (if o.probabilistic then b.risk v else 0) v o.verdict

/-- The operands with and those without thresholds, each with their truth values. -/
theorem Operand.Errs.partition {t : Site → Bool} {os : List (Operand (Recording EReal G S))}
    {vs : List Bool} (h : List.Forall₂ (Operand.Errs t) os vs) :
    ∃ tested free,
      List.Forall₂ (Operand.Errs t) (os.filter (·.probabilistic)) tested ∧
      List.Forall₂ (Operand.Errs t) (os.filter (!·.probabilistic)) free ∧
      ∀ d, vs.any (· == d) = (free.any (· == d) || tested.any (· == d)) := by
  induction h with
  | nil => exact ⟨[], [], .nil, .nil, fun _ => rfl⟩
  | @cons o v os vs ho _ ih =>
    obtain ⟨tested, free, htested, hfree, hany⟩ := ih
    cases hp : o.probabilistic with
    | true =>
      refine ⟨v :: tested, free, ?_, ?_, ?_⟩
      · simpa [List.filter_cons, hp] using List.Forall₂.cons ho htested
      · simpa [List.filter_cons, hp] using hfree
      · intro d
        simp [hany, Bool.or_left_comm]
    | false =>
      refine ⟨tested, v :: free, ?_, ?_, ?_⟩
      · simpa [List.filter_cons, hp] using htested
      · simpa [List.filter_cons, hp] using List.Forall₂.cons ho hfree
      · intro d
        simp [hany, Bool.or_assoc]

namespace ErrsWithin

variable {t : Site → Bool} {b : ErrorBounds ℝ} {head : Option (Recording EReal G S Bool)}
  {hs : List Bool} {os : List (Operand (Recording EReal G S))} {vs : List Bool}

theorem verdicts (hb : b.Proper) (hops : List.Forall₂ (Operand.Errs t) os vs) {tested : Bool}
    (h : ∀ o ∈ os, o.probabilistic = tested) :
    List.Forall₂ (fun x v => ErrsWithin t b (if tested then b.risk v else 0) v x)
      (os.map (·.verdict)) vs := by
  induction hops with
  | nil => exact .nil
  | cons ho _ ih =>
    obtain ⟨hp, hps⟩ := List.forall_mem_cons.1 h
    exact .cons (hp ▸ ho b hb) (ih hps)

/-- The search among operands without thresholds is never wrong. -/
theorem search_free (d : Bool) (hb : b.Proper)
    (hhead : List.Forall₂ (fun x v => ErrsWithin t b 0 v x) head.toList hs)
    (hops : List.Forall₂ (Operand.Errs t) os vs) (hfree : ∀ o ∈ os, o.probabilistic = false) :
    ErrsWithin t b 0 ((hs ++ vs).any (· == d))
      (Verdict.anyIs d (head.toList ++ os.map (·.verdict))) := by
  have hall : List.Forall₂ (fun x v => ErrsWithin t b 0 v x)
      (head.toList ++ os.map (·.verdict)) (hs ++ vs) :=
    List.rel_append hhead (by simpa using verdicts hb hops hfree)
  simpa using anyIs (ρ := fun _ => 0) d hall

/-- The search among operands with thresholds keeps to the bound that they share. -/
theorem search_tested (conjunctive : Bool) (hb : b.Proper)
    (hops : List.Forall₂ (Operand.Errs t) os vs) (htested : ∀ o ∈ os, o.probabilistic = true)
    (hos : 0 < os.length) :
    ErrsWithin t b
      (b.risk (if vs.any (· == !conjunctive) then !conjunctive else conjunctive))
      (vs.any (· == !conjunctive))
      (Budgeted.within (b.share conjunctive os.length).exact
        (Verdict.anyIs (!conjunctive) (os.map (·.verdict)))) := by
  have hall := verdicts (hb.share conjunctive hos) hops htested
  simp only [if_true] at hall
  refine (within (anyIs (!conjunctive) hall)).mono (le_of_eq ?_)
  rw [Bool.not_not, ← hops.length_eq, ErrorBounds.mul_risk_share b conjunctive hos,
    ErrorBounds.risk_share_decisive]
  split_ifs <;> rfl

/-- The tail of a junction that its free operands leave open. -/
theorem junction_tail (conjunctive : Bool) (hb : b.Proper)
    (hops : List.Forall₂ (Operand.Errs t) os vs) (htested : ∀ o ∈ os, o.probabilistic = true)
    (hos : 0 < os.length) {v : Bool}
    (hv : v = if vs.any (· == !conjunctive) then !conjunctive else conjunctive) :
    ErrsWithin t b (b.risk v) v (do
      let b ← Budgeted.bounds
      let share := if conjunctive = true then b.shareAlpha os.length else b.shareBeta os.length
      let found ← Budgeted.within share (Verdict.anyIs (!conjunctive) (os.map (·.verdict)))
      return if found = true then !conjunctive else !!conjunctive) := by
  subst hv
  have hsearch := search_tested conjunctive hb hops htested hos
  have htame := (anyIs (t := t) (!conjunctive) (verdicts hb hops htested)).tame
  refine bounds (fun c => (htame.within _).bind fun _ => .pure _) ?_
  rw [ErrorBounds.exact_share] at hsearch
  have := hsearch.bind (f := fun found => Pure.pure (if found = true then !conjunctive else !!conjunctive))
    (fun _ => .pure _) (pure _)
  simpa using this

/-- A junction keeps to its bounds. -/
theorem junction (conjunctive : Bool) (hb : b.Proper)
    (hhead : List.Forall₂ (fun x v => ErrsWithin t b 0 v x) head.toList hs)
    (hops : List.Forall₂ (Operand.Errs t) os vs) {v : Bool}
    (hv : v = if (hs ++ vs).any (· == !conjunctive) then !conjunctive else conjunctive) :
    ErrsWithin t b (if os.any (·.probabilistic) then b.risk v else 0) v
      (Verdict.junction conjunctive head os) := by
  obtain ⟨tested, free, htested, hfree, hany⟩ := Operand.Errs.partition hops
  have hallTested : ∀ o ∈ os.filter (·.probabilistic), o.probabilistic = true :=
    fun o ho => (List.mem_filter.1 ho).2
  have hsearch := search_free (!conjunctive) hb hhead hfree fun o ho => by
    simpa using (List.mem_filter.1 ho).2
  have hrisk : 0 ≤ if os.any (·.probabilistic) then b.risk v else 0 := by
    split_ifs
    exacts [(hb.risk_pos v).le, le_rfl]
  rw [List.any_append, hany, ← Bool.or_assoc, ← List.any_append] at hv
  unfold Verdict.junction
  rw [List.partition_eq_filter_filter]
  rw [← zero_add (if os.any (·.probabilistic) then b.risk v else 0)]
  -- The operands without thresholds come first; only if they leave it open are the others tested.
  refine hsearch.bind ?_ ?_
  · refine fun a => .ite (.pure _) (.ite (.pure _) ?_)
    have htame := (anyIs (t := t) (!conjunctive) (verdicts hb htested hallTested)).tame
    exact Tame.bounds.bind fun c => (htame.within _).bind fun _ => .pure _
  · cases hfound : (hs ++ free).any (· == !conjunctive) with
    | true =>
      rw [hfound, Bool.true_or, if_pos rfl] at hv
      subst hv
      exact (pure _).mono hrisk
    | false =>
      rw [hfound, Bool.false_or] at hv
      cases hempty : (os.filter (·.probabilistic)).isEmpty with
      | true =>
        rw [List.isEmpty_iff.1 hempty] at htested
        cases htested
        have hv : v = !!conjunctive := by simpa using hv
        subst hv
        exact (pure _).mono hrisk
      | false =>
        have hos : 0 < (os.filter (·.probabilistic)).length := by
          rw [List.length_pos_iff]
          exact fun h => by simp [h] at hempty
        have hsome : os.any (·.probabilistic) = true := by
          obtain ⟨o, ho⟩ := List.exists_mem_of_length_pos hos
          exact List.any_eq_true.2 ⟨o, List.mem_filter.1 ho⟩
        rw [hsome]
        exact junction_tail conjunctive hb htested hallTested hos hv

/-- The verdicts on operands with their costs within bounds that are equal. -/
theorem verdicts_both {q : ℝ} (hb : (ErrorBounds.both q).Proper)
    (hops : List.Forall₂ (Operand.Errs t) os vs) :
    ∃ ps : List (Bool × ℝ), ps.map (·.1) = vs ∧
      (ps.map (·.2)).sum = os.countP (·.probabilistic) * q ∧
      List.Forall₂ (fun x p => ErrsWithin t (.both q) p.2 p.1 x) (os.map (·.verdict)) ps := by
  induction hops with
  | nil => exact ⟨[], rfl, by simp, .nil⟩
  | @cons o v os vs ho _ ih =>
    obtain ⟨ps, hvs, hsum, hps⟩ := ih
    have hrisk : (ErrorBounds.both q).risk v = q := by cases v <;> rfl
    refine ⟨(v, if o.probabilistic then q else 0) :: ps, by simp [hvs], ?_, .cons ?_ hps⟩
    · cases hp : o.probabilistic
      · simp [hsum, hp]
      · simp only [List.map_cons, List.sum_cons, hsum, List.countP_cons, hp, if_true]
        push_cast
        ring
    · simpa only [hrisk] using ho _ hb

theorem verdicts_head {c : ErrorBounds ℝ} {xs : List (Recording EReal G S Bool)}
    (h : List.Forall₂ (fun x v => ErrsWithin t c 0 v x) xs hs) :
    List.Forall₂ (fun x p => ErrsWithin t c p.2 p.1 x) xs (hs.map fun v => (v, (0 : ℝ))) := by
  induction h with
  | nil => exact .nil
  | cons hx _ ih => exact .cons hx ih

/-- Each of the verdicts can mislead a chain that begins with the first of them. -/
theorem chainAll {xs : List (Recording EReal G S Bool)} {ps : List (Bool × ℝ)}
    (h : List.Forall₂ (fun x p => ErrsWithin t b p.2 p.1 x) xs ps) :
    ErrsWithin t b (ps.map (·.2)).sum (equivalences (ps.map (·.1)))
      (Verdict.chainAll xs) := by
  cases h with
  | nil => exact pure true
  | cons hx hxs => exact hx.bind (fun c => (chain c hxs).tame) (chain _ hxs)

/-- The operands of a chain spend at most the smaller bound, and nothing if none is tested. -/
theorem cost_le (b : ErrorBounds ℝ) (n : ℕ) {tested : Bool} (h : n = 0 ↔ tested = false) (v : Bool) :
    n * (min b.alpha b.beta / (max 1 n : ℕ)) ≤ if tested then b.risk v else 0 := by
  cases tested with
  | false => simp [h.2 rfl]
  | true =>
    have hn : 0 < n := Nat.pos_of_ne_zero fun h0 => by simpa using h.1 h0
    have hn' : (n : ℝ) ≠ 0 := by exact_mod_cast hn.ne'
    rw [max_eq_right hn, mul_div_cancel₀ _ hn', if_pos rfl]
    exact b.min_le_risk v

/-- A chain of equivalences keeps to its bounds. -/
theorem equivalence (hb : b.Proper)
    (hhead : ∀ c : ErrorBounds ℝ, List.Forall₂ (fun x v => ErrsWithin t c 0 v x) head.toList hs)
    (hops : List.Forall₂ (Operand.Errs t) os vs) :
    ErrsWithin t b (if os.any (·.probabilistic) then b.risk (equivalences (hs ++ vs)) else 0)
      (equivalences (hs ++ vs)) (Verdict.equivalence head os) := by
  have hmax : 0 < max 1 (os.countP (·.probabilistic)) := by omega
  obtain ⟨ps, hvs, hsum, hps⟩ := verdicts_both (hb.both_min hmax) hops
  have hpairs : List.Forall₂ _ (head.toList ++ os.map (·.verdict)) (hs.map (·, (0 : ℝ)) ++ ps) :=
    List.rel_append (verdicts_head (hhead _)) hps
  have hall := chainAll hpairs
  have hvalue : (hs.map (fun v => (v, (0 : ℝ))) ++ ps).map (·.1) = hs ++ vs := by
    simp [hvs, Function.comp_def]
  have htotal : ((hs.map (fun v => (v, (0 : ℝ))) ++ ps).map (·.2)).sum = (ps.map (·.2)).sum := by
    simp [Function.comp_def]
  have hnone : os.countP (·.probabilistic) = 0 ↔ os.any (·.probabilistic) = false := by
    rw [List.countP_eq_zero, List.any_eq_false]
  have hcost := cost_le b _ hnone (equivalences (hs ++ vs))
  rw [hvalue, htotal, hsum] at hall
  rw [Verdict.equivalence]
  refine bounds (fun c => hall.tame.within _) ?_
  have hwithin := within (b := b) hall
  rw [← ErrorBounds.exact_shareLeast] at hwithin
  exact hwithin.mono hcost

end ErrsWithin

/-! ### Trees -/

/-- Expressions are evaluated in a state, and tests keep parameters and level. -/
structure Leaves.Sound (l : Leaves EReal (Run EReal (Session EReal G S))) (s : State EReal) :
    Prop where
  expression_keeps : ∀ e, Run.Keeps Session.scope (l.expression e)
  expression_right : ∀ e σ w σ', l.expression e σ = .ok (w, σ') → w = e.isTrue s
  test_keeps : ∀ site bound path, Run.Keeps Session.scope (l.test site bound path)

theorem Leaves.tested_sound [Distributions EReal] (sim : Simulator EReal G)
    (src : SampleSource EReal S) (s : State EReal) : (Leaves.tested sim src s).Sound s where
  expression_keeps e := .ofExcept _
  expression_right := by
    intro e σ w σ' h
    rw [Expression.isTrue, (Run.ofExcept_eq_ok.1 h).1]
  test_keeps _ := thresholdTest_keeps_scope sim src s

section Tree

variable {l : Leaves EReal (Run EReal (Session EReal G S))} {s : State EReal}

theorem Leaves.Sound.head (hl : l.Sound s) (t : Site → Bool) (head : Option (Expression EReal))
    (b : ErrorBounds ℝ) :
    List.Forall₂ (fun x v => ErrsWithin t b 0 v x) (head.map l.recorded.expression).toList
      (head.map fun e => e.isTrue s).toList := by
  cases head with
  | none => exact .nil
  | some e => exact .cons (.lift (hl.expression_keeps e) (hl.expression_right e)) .nil

theorem any_decideAll (site : Site) (i : ℕ) (ps : List (Property EReal)) :
    (Property.decideAll l.recorded site i ps).any (·.probabilistic)
      = Property.anyProbabilistic ps := by
  induction ps generalizing i with
  | nil => rfl
  | cons p ps ih => rw [Property.decideAll, List.any_cons, ih, Property.anyProbabilistic]

mutual

/-- **The tests to blame for a wrong verdict cost no more than the bound on it.** -/
theorem errsWithin_decide (hl : l.Sound s) (t : Site → Bool) :
    ∀ (site : Site) (p : Property EReal) {b : ErrorBounds ℝ}, b.Proper →
      ErrsWithin t b (if p.isProbabilistic then b.risk (p.truth s t site) else 0)
        (p.truth s t site) (p.decide l.recorded site)
  | site, .expr e, b, _ => by
    rw [Property.decide, Property.truth]
    exact .lift (hl.expression_keeps e) (hl.expression_right e)
  | site, .not p, b, hb => by
    rw [Property.decide, Property.truth]
    -- A wrong verdict on the operand is the opposite error, and its bounds are swapped.
    have hp := errsWithin_decide hl t (0 :: site) p hb.swap
    refine ErrsWithin.bounds (fun c => (hp.tame.within _).bind fun _ => .pure _) ?_
    have hnot : (if p.isProbabilistic then b.swap.risk (p.truth s t (0 :: site)) else 0) + 0
        = if p.isProbabilistic then b.risk (!p.truth s t (0 :: site)) else 0 := by
      cases p.truth s t (0 :: site) <;> simp [ErrorBounds.risk, ErrorBounds.swap]
    exact hnot ▸ (hp.within (b := b)).bind (fun _ => .pure _) (.pure _)
  | site, .combine c head ps, b, hb => by
    have hops := errs_decideAll hl t site 0 ps
    have hhead := hl.head t head
    have hany := any_decideAll (l := l) site 0 ps
    rw [Property.decide, Property.truth, Property.isProbabilistic, ← hany]
    cases c with
    | conjunction => exact .junction true hb (hhead b) hops (Connective.truth_eq_ite _).1
    | disjunction => exact .junction false hb (hhead b) hops (Connective.truth_eq_ite _).2
    | equivalence => exact .equivalence hb hhead hops
  | site, .threshold op bound path, b, hb => by
    rw [Property.decide, Property.truth, Property.isProbabilistic, if_pos rfl]
    cases Property.trivialVerdict? op bound with
    | some verdict => exact (ErrsWithin.pure verdict).mono (hb.risk_pos _).le
    | none => exact .test (hl.test_keeps site bound path) hb

theorem errs_decideAll (hl : l.Sound s) (t : Site → Bool) (site : Site) :
    ∀ (i : ℕ) (ps : List (Property EReal)),
      List.Forall₂ (Operand.Errs t) (Property.decideAll l.recorded site i ps)
        (Property.truths s t site i ps)
  | _, [] => .nil
  | i, p :: ps =>
    .cons (fun _ hb => errsWithin_decide hl t (i :: site) p hb) (errs_decideAll hl t site (i + 1) ps)

end

end Tree

end SimCheck
