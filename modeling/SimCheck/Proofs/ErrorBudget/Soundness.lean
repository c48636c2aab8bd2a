import SimCheck.Proofs.ErrorBudget.Division
import Mathlib.Probability.Distributions.Uniform
import Mathlib.Tactic.FinCases

/-!
# The error budget of the Boolean layer

* `prob_wrong_verdict_le`: a wrong verdict is no more probable than its bound allows, since some
  test to blame has answered wrongly;
* `check_errs_within_bounds`: if every test keeps to the bounds it is given, the check keeps to
  its own, however the verdicts of the tests depend on each other;
* `Die`: a conjunction whose tests depend on each other so that its bound is attained.
-/

namespace SimCheck

variable {G S : Type}

/-! ### Probabilities -/

namespace Run

variable {R σ α : Type}

/-- The run ends with this value. -/
def Answers (x : Run R σ α) (s : σ) (a : α) : Prop := ∃ s', x s = .ok (a, s')

end Run

/-- Some charge is to blame at most with the sum of the costs. -/
theorem prob_wrong_le {Ω : Type} (P : PMF Ω) (records : Ω → List (TestRecord EReal))
    {t : Site → Bool} {charges : List Charge} (hproper : ∀ c ∈ charges, c.bounds.Proper)
    (h : ∀ c ∈ charges, P.toOuterMeasure {ω | c.wrong t ∈ records ω} ≤ ENNReal.ofReal (c.cost t)) :
    P.toOuterMeasure {ω | ∃ c ∈ charges, c.wrong t ∈ records ω}
      ≤ ENNReal.ofReal (charges.map (·.cost t)).sum := by
  induction charges with
  | nil => simp
  | cons c charges ih =>
    obtain ⟨hc, hcs⟩ := List.forall_mem_cons.1 h
    obtain ⟨hp, hps⟩ := List.forall_mem_cons.1 hproper
    have hsum : 0 ≤ (charges.map (·.cost t)).sum := by
      refine List.sum_nonneg fun a ha => ?_
      obtain ⟨d, hd, rfl⟩ := List.mem_map.1 ha
      exact ((hps d hd).risk_pos _).le
    have hset : {ω | ∃ d ∈ c :: charges, d.wrong t ∈ records ω}
        = {ω | c.wrong t ∈ records ω} ∪ {ω | ∃ d ∈ charges, d.wrong t ∈ records ω} := by
      ext ω
      simp
    rw [hset, List.map_cons, List.sum_cons, ENNReal.ofReal_add (p := c.cost t) (hp.risk_pos _).le hsum]
    exact (MeasureTheory.measure_union_le _ _).trans (add_le_add hc (ih hps hcs))

/-- A wrong verdict is no more probable than its bound allows. -/
theorem prob_wrong_verdict_le {Ω : Type} (P : PMF Ω)
    {l : Leaves EReal (Run EReal (Session EReal G S))} {s : State EReal} (hl : l.Sound s)
    (p : Property EReal) (t : Site → Bool) {b : ErrorBounds ℝ} (hb : b.Proper)
    {start : Ω → Session EReal G S} (hstart : ∀ ω, (start ω).verifier.params.bounds = b.exact)
    (htests : ∀ c : Charge, c.bounds.Proper →
      P.toOuterMeasure {ω | c.wrong t ∈ testRecords l p (start ω)} ≤ ENNReal.ofReal (c.cost t)) :
    P.toOuterMeasure {ω | Run.Answers (p.decide l []) (start ω) (!p.truth s t [])}
      ≤ ENNReal.ofReal (b.risk (p.truth s t [])) := by
  obtain ⟨charges, hproper, hcost, hblame⟩ := (errsWithin_decide hl t [] p hb).blame
  have hrisk : (charges.map (·.cost t)).sum ≤ b.risk (p.truth s t []) := by
    refine hcost.trans ?_
    split_ifs
    exacts [le_rfl, (hb.risk_pos _).le]
  calc P.toOuterMeasure {ω | Run.Answers (p.decide l []) (start ω) (!p.truth s t [])}
      ≤ P.toOuterMeasure {ω | ∃ c ∈ charges, c.wrong t ∈ testRecords l p (start ω)} := by
        refine MeasureTheory.measure_mono ?_
        rintro ω ⟨s', hs'⟩
        have hw := hblame _ _ _ _ _ (hstart ω) (decide_recorded_of_decide hs')
        exact hw.resolve_left (by simp)
    _ ≤ ENNReal.ofReal (charges.map (·.cost t)).sum :=
        prob_wrong_le P _ hproper fun c hc => htests c (hproper c hc)
    _ ≤ ENNReal.ofReal (b.risk (p.truth s t [])) := ENNReal.ofReal_le_ofReal hrisk

/-- **The error budget of the Boolean layer is sound.**  `check` decides a tree by its Boolean layer
and a sequential test for each threshold that it reaches.  Whatever tests stand in their place and
however their verdicts depend on each other: if each test, with the bounds `(a, b)` it is given,
rejects a threshold that holds with probability at most `a` and accepts one that fails with
probability at most `b`, then the check at `(α, β)` rejects a property that holds with probability at
most `α` and accepts one that fails with probability at most `β`. -/
theorem check_errs_within_bounds [Distributions EReal] (sim : Simulator EReal G)
    (src : SampleSource EReal S) (p : Property EReal) (s : State EReal) :
    check sim src p s = p.decide (Leaves.tested sim src s) [] ∧ (Leaves.tested sim src s).Sound s ∧
    ∀ (l : Leaves EReal (Run EReal (Session EReal G S))) (t : Site → Bool) (α β : ℝ) (Ω : Type)
      (P : PMF Ω) (start : Ω → Session EReal G S),
      l.Sound s → 0 < α ∧ α < 1 → 0 < β ∧ β < 1 →
      (∀ ω, (start ω).verifier.params.bounds = ⟨α, β⟩) →
      (∀ site (a b : ℝ), 0 < a ∧ a < 1 → 0 < b ∧ b < 1 → t site = true →
        P.toOuterMeasure {ω | ⟨site, ⟨a, b⟩, false⟩ ∈ testRecords l p (start ω)}
          ≤ ENNReal.ofReal a) →
      (∀ site (a b : ℝ), 0 < a ∧ a < 1 → 0 < b ∧ b < 1 → t site = false →
        P.toOuterMeasure {ω | ⟨site, ⟨a, b⟩, true⟩ ∈ testRecords l p (start ω)}
          ≤ ENNReal.ofReal b) →
      (p.truth s t [] = true →
        P.toOuterMeasure {ω | Run.Answers (p.decide l []) (start ω) false} ≤ ENNReal.ofReal α) ∧
      (p.truth s t [] = false →
        P.toOuterMeasure {ω | Run.Answers (p.decide l []) (start ω) true} ≤ ENNReal.ofReal β) := by
  refine ⟨check_eq_decide sim src s [] p, Leaves.tested_sound sim src s, ?_⟩
  intro l t α β Ω P start hl hα hβ hstart hreject haccept
  have htests : ∀ c : Charge, c.bounds.Proper →
      P.toOuterMeasure {ω | c.wrong t ∈ testRecords l p (start ω)} ≤ ENNReal.ofReal (c.cost t) := by
    rintro ⟨site, ⟨a, b⟩⟩ ⟨ha, hb⟩
    unfold Charge.wrong Charge.cost
    cases ht : t site with
    | true => exact hreject site a b ha hb ht
    | false => exact haccept site a b ha hb ht
  have hle := prob_wrong_verdict_le P hl p t (b := ⟨α, β⟩) ⟨hα, hβ⟩ hstart htests
  constructor
  · intro htrue
    rw [htrue] at hle
    exact hle
  · intro hfalse
    rw [hfalse] at hle
    exact hle

/-! ### A bound that is attained -/

namespace Die

/-- The test of an operand rejects its threshold when the die shows the number of the operand. -/
noncomputable def leaves : Leaves EReal (Run EReal (Session EReal Unit (Fin 4))) where
  expression e := Run.ofExcept (e.holds ⟨[], 0⟩)
  test site _ _ := fun s => .ok (site != [s.source.val], s)

noncomputable def half : EReal := (1 / 2 : ℝ)

noncomputable def path : PathProperty EReal :=
  .unbounded ⟨0⟩ (.expr (.constant true)) (.expr (.constant true))

noncomputable def threshold : Property EReal := .threshold .atLeast half path

/-- A conjunction of two thresholds. -/
noncomputable def conjunction : Property EReal := .combine .conjunction none [threshold, threshold]

/-- A session within the bounds `(1/2, 1/2)` whose die shows this face. -/
noncomputable def session (face : Fin 4) : Session EReal Unit (Fin 4) where
  verifier :=
    { params := { Params.default with alpha := half, beta := half }
      generator := (), stats := ∅, cache := ∅, level := 0, events := [] }
  source := face

theorem leaves_sound : leaves.Sound ⟨[], 0⟩ where
  expression_keeps e := .ofExcept _
  expression_right := by
    intro e σ w σ' h
    rw [Expression.isTrue, (Run.ofExcept_eq_ok.1 h).1]
  test_keeps site bound path := by
    intro s a s' h
    cases h
    rfl

theorem trivialVerdict?_half : Property.trivialVerdict? .atLeast half = none := by
  have h : half ≠ 0 := by
    rw [half]
    norm_num
  unfold Property.trivialVerdict?
  rw [Exact.beq_eq_decide, decide_eq_false h]
  rfl

theorem decide_conjunction {m : Type → Type} [Monad m] [Budgeted EReal m] (l : Leaves EReal m) :
    conjunction.decide l [] = Verdict.junction true none
      [⟨true, l.test [0] half path⟩, ⟨true, l.test [1] half path⟩] := by
  rw [conjunction, Property.decide]
  simp only [Property.decideAll, Property.decide, threshold, trivialVerdict?_half]
  rfl

/-- The first test to answer false ends the check. -/
theorem testRecords_session (face : Fin 4) :
    testRecords leaves conjunction (session face) =
      if face = 0 then [⟨[0], ⟨half / (2 : ℕ), half⟩, false⟩]
      else [⟨[1], ⟨half / (2 : ℕ), half⟩, face != 1⟩, ⟨[0], ⟨half / (2 : ℕ), half⟩, true⟩] := by
  rw [testRecords, decide_conjunction]
  fin_cases face <;> rfl

theorem half_div_two : half / (2 : ℕ) = ((1 / 4 : ℝ) : EReal) := by
  rw [half, ← EReal.coe_natCast, ← EReal.coe_div]
  norm_num

/-- A false record is that of the operand whose number the die shows. -/
theorem of_mem_testRecords {face : Fin 4} {site : Site} {a b : ℝ}
    (h : ⟨site, ⟨a, b⟩, false⟩ ∈ testRecords leaves conjunction (session face)) :
    site = [face.val] ∧ a = 1 / 4 := by
  rw [testRecords_session, half_div_two] at h
  fin_cases face <;> simp_all

theorem truth_conjunction : conjunction.truth ⟨[], 0⟩ (fun _ => true) [] = true := by
  rw [conjunction, Property.truth]
  simp only [Property.truths, Property.truth, threshold, trivialVerdict?_half]
  rfl

theorem answers_false_iff (face : Fin 4) :
    Run.Answers (conjunction.decide leaves []) (session face) false ↔ face = 0 ∨ face = 1 := by
  rw [decide_conjunction]
  constructor
  · rintro ⟨s', h⟩
    fin_cases face
    exacts [.inl rfl, .inr rfl, (nomatch h), (nomatch h)]
  · rintro (rfl | rfl)
    exacts [⟨_, rfl⟩, ⟨_, rfl⟩]

/-- A fair die with four faces. -/
noncomputable def die : PMF (Fin 4) := PMF.uniformOfFintype (Fin 4)

noncomputable abbrev distributions : Distributions EReal := ⟨fun _ _ _ => 0, fun _ _ => 0⟩

noncomputable def simulator : Simulator EReal Unit := ⟨fun s => pure (.absorbing s.values), 0⟩

/-- A source that never answers. -/
noncomputable def source : SampleSource EReal (Fin 4) := ⟨fun _ _ s => s, fun _ => .stalled, fun _ s => s⟩

/-- The die rejects a true conjunction as often as its bound allows. -/
theorem check_errs_within_bounds_die :
    die.toOuterMeasure
      {face | Run.Answers (conjunction.decide leaves []) (session face) false}
        = ENNReal.ofReal (1 / 2) := by
  let _ := distributions
  have hhalf : (0 : ℝ) < 1 / 2 ∧ (1 / 2 : ℝ) < 1 := by norm_num
  have hface (face : Fin 4) : die face = ENNReal.ofReal (1 / 4) := by
    rw [die, PMF.uniformOfFintype_apply, Fintype.card_fin, ENNReal.ofReal_div_of_pos (by norm_num)]
    norm_num
  have hreject : ∀ site (a b : ℝ), 0 < a ∧ a < 1 → 0 < b ∧ b < 1 → true = true →
      die.toOuterMeasure
        {face | ⟨site, ⟨a, b⟩, false⟩ ∈ testRecords leaves conjunction (session face)}
          ≤ ENNReal.ofReal a := by
    intro site a b _ _ _
    rcases Set.eq_empty_or_nonempty
      {face | ⟨site, ⟨a, b⟩, false⟩ ∈ testRecords leaves conjunction (session face)} with h | ⟨face, h⟩
    · simp [h]
    · obtain ⟨rfl, rfl⟩ := of_mem_testRecords h
      rw [← hface face, ← PMF.toOuterMeasure_apply_singleton]
      refine MeasureTheory.measure_mono fun other h => ?_
      have := (of_mem_testRecords h).1
      simpa [Fin.ext_iff, eq_comm] using this
  have hbudget := (check_errs_within_bounds simulator source conjunction ⟨[], 0⟩).2.2
    leaves (fun _ => true) (1 / 2) (1 / 2) (Fin 4) die session leaves_sound hhalf hhalf
    (fun _ => rfl) hreject (fun _ _ _ _ _ h => nomatch h)
  refine le_antisymm (hbudget.1 truth_conjunction) (le_of_eq ?_)
  have hset : {face | Run.Answers (conjunction.decide leaves []) (session face) false}
      = (({0, 1} : Finset (Fin 4)) : Set (Fin 4)) := by
    ext face
    simpa using answers_false_iff face
  rw [hset, PMF.toOuterMeasure_apply_finset, Finset.sum_pair (by decide), hface, hface,
    ← ENNReal.ofReal_add (by norm_num) (by norm_num)]
  norm_num

end Die

end SimCheck
