import Mathlib.Data.EReal.Basic
import SimCheck.Proofs.Free
import SimCheck.Proofs.Precondition.Constructors
import SimCheck.Proofs.Precondition.Path

/-!
# Why a check halts

A check divides the error bounds in force among its tests.  If the parameters admit every division and
every share of a path's budget, and if the tests of all thresholds can be constructed within them, then
the check halts for no other reasons than the model and the expressions, and it is the same with other
constructors that differ only where arguments are not admitted.

* `Property.thresholdBounds`: the thresholds of a tree;
* `Divides A`: parameters of which `A` holds admit the bounds of all operands;
* `Regime H A B k`: what is asked of parameters, of budgets and of other constructors;
* `Regime.check`: whole checks.
-/

namespace SimCheck

open Run (Safe)

/-! ### What a tree is made of -/

namespace Property

variable {R : Type}

mutual

/-- The bounds of all thresholds of a tree, those of its path properties included. -/
def thresholdBounds : Property R → List R
  | .expr _ => []
  | .not p => thresholdBounds p
  | .combine _ _ ps => thresholdBoundsOf ps
  | .threshold _ bound (.until _ _ _ pre post) =>
    bound :: (thresholdBounds pre ++ thresholdBounds post)

/-- The bounds of all thresholds of a list of trees. -/
def thresholdBoundsOf : List (Property R) → List R
  | [] => []
  | p :: ps => thresholdBounds p ++ thresholdBoundsOf ps

end

end Property

variable {R G S : Type} [Scalar R] {H : Halt R → Prop} {A : Params R → Prop} {B : R → Prop}

/-! ### Connectives -/

/-- The parameters admit the bounds that the connectives give their operands. -/
structure Divides (A : Params R → Prop) : Prop where
  swap : ∀ p, A p → A (p.withBounds p.bounds.swap)
  shareAlpha : ∀ p k, A p → 0 < k → A (p.withBounds (p.bounds.shareAlpha k))
  shareBeta : ∀ p k, A p → 0 < k → A (p.withBounds (p.bounds.shareBeta k))
  shareLeast : ∀ p k, A p → 0 < k → A (p.withBounds (p.bounds.shareLeast k))

namespace Run.Safe

section Connectives

omit [Scalar R] in
/-- Runs within bounds that come from those in force. -/
theorem bounds_within {α : Type} {x' x : Run R (Session R G S) α} {g : ErrorBounds R → ErrorBounds R}
    {Q : α → Prop} (hA : ∀ p, A p → A (p.withBounds (g p.bounds))) (hx : Safe H A x' x Q) :
    Safe H A (Budgeted.bounds >>= fun b => Budgeted.within (g b) x')
      (Budgeted.bounds >>= fun b => Budgeted.within (g b) x) Q :=
  bounds_bind fun p hp => withinBounds (fun _ hq => hq ▸ hA p hp) hx

theorem negation {x' x : Run R (Session R G S) Bool} (hdivides : Divides A)
    (hx : Safe H A x' x fun _ => True) :
    Safe H A (Verdict.negation x') (Verdict.negation x) fun _ => True := by
  have hnegation (y : Run R (Session R G S) Bool) : Verdict.negation y
      = (Budgeted.bounds >>= fun b => Budgeted.within b.swap y) >>= fun a => Pure.pure !a := by
    rw [Verdict.negation, bind_assoc]
  rw [hnegation, hnegation]
  exact bind (bounds_within hdivides.swap hx) fun _ _ => pure trivial

variable {head' head : Option (Run R (Session R G S) Bool)}
  {os' os : List (Operand (Run R (Session R G S)))}
  (hhead : Option.Rel (Safely H A S Bool) head' head)
  (hos : List.Forall₂ (Operand.Related (Safely H A S)) os' os)

include hhead hos

theorem junction (conjunctive : Bool) (hdivides : Divides A) :
    Safe H A (Verdict.junction conjunctive head' os') (Verdict.junction conjunctive head os)
      fun _ => True := by
  have htested : List.Forall₂ (Operand.Related (Safely H A S)) (os'.filter (·.probabilistic))
      (os.filter (·.probabilistic)) := Operand.Related.filter hos id
  have hfree := Operand.Related.filter hos not
  unfold Verdict.junction
  rw [List.partition_eq_filter_filter, List.partition_eq_filter_filter]
  refine bind (sequencing.anyIs _ (Operand.Related.verdicts_head hfree hhead)) fun _ _ =>
    ite (fun _ => pure trivial) fun _ => ?_
  rw [Operand.Related.isEmpty_eq htested, htested.length_eq]
  refine ite (fun _ => pure trivial) fun hsome => ?_
  have hpos : 0 < (os.filter (·.probabilistic)).length :=
    List.length_pos_iff.2 fun hnil => hsome (List.isEmpty_iff.2 hnil)
  refine bounds_bind fun p hp =>
    bind (withinBounds ?_ (sequencing.anyIs _ (Operand.Related.verdicts htested))) fun _ _ => pure trivial
  rintro _ rfl
  cases conjunctive
  · exact hdivides.shareBeta _ _ hp hpos
  · exact hdivides.shareAlpha _ _ hp hpos

theorem combine (c : Connective) (hdivides : Divides A) :
    Safe H A (Verdict.combine c head' os') (Verdict.combine c head os) fun _ => True := by
  cases c with
  | conjunction => exact junction hhead hos true hdivides
  | disjunction => exact junction hhead hos false hdivides
  | equivalence =>
    show Safe H A (Verdict.equivalence head' os') (Verdict.equivalence head os) fun _ => True
    unfold Verdict.equivalence
    rw [Operand.Related.countP_eq hos]
    exact bounds_within (fun p hp => hdivides.shareLeast p _ hp (Nat.le_max_left 1 _))
      (sequencing.chainAll (Operand.Related.verdicts_head hos hhead))

end Connectives

/-! ### Runs without an effect -/

omit [Scalar R] in
/-- What depends on nothing is safe from any parameters if it is safe from some. -/
theorem of_settled {α : Type} {x : Run R (Session R G S) α} {a : α} (hx : x.Settled a)
    {Q : α → Prop} (hsafe : Safe H A x x Q) {σ : Session R G S} (hσ : A σ.verifier.params) :
    Safe H (fun _ => True) x x fun _ => True := by
  intro τ _
  rcases hx with hx | ⟨e, hx⟩
  · rw [hx]
    exact ⟨rfl, trivial, rfl⟩
  · rw [hx]
    exact ⟨rfl, hsafe.of_error hσ (hx σ)⟩

end Run.Safe

/-- No error is reserved for a path without checks inside it. -/
theorem UntilCheck.nestedError_eq_or (u : UntilCheck R G) (p : Params R) :
    u.nestedError p = 0 ∨ u.nestedError p = p.nestedErrorBound := by
  unfold nestedError
  split_ifs
  exacts [.inr rfl, .inl rfl]

/-! ### Regimes -/

variable [Distributions R] {k : Constructors R}

/-- What is asked of parameters, of which `A` holds, of the budget of a path, of which `B` holds, and of
other constructors: that the parameters admit what is done with them, and that tests are constructed
within them as they are by the constructors of the verifier. -/
structure Regime (H : Halt R → Prop) (A : Params R → Prop) (B : R → Prop) (k : Constructors R) : Prop
    extends Divides A, Spends A B where
  /-- There is a budget for the checks inside a path. -/
  nested : ∀ p, A p → B p.nestedErrorBound
  /-- The test of a threshold, with checks inside its path or without, can be constructed. -/
  create : ∀ (bound : R) (p : Params R) (error : R), 0 ≤ bound → bound ≤ 1 → A p →
    error = 0 ∨ error = p.nestedErrorBound →
      k.test p.thresholdAlgorithm (Region.around bound p.delta error) p
          = ThresholdTest.create p.thresholdAlgorithm (Region.around bound p.delta error) p ∧
        ∀ f, ThresholdTest.create p.thresholdAlgorithm (Region.around bound p.delta error) p
          = .error f → H (.fault f)

namespace Regime

variable (h : Regime H A B k) {u' u : UntilCheck R G} {sim : Simulator R G}
  (hmodel : ∀ s g f, sim.model s g = .error f → H (.fault f)) (hfuel : H .outOfFuel)

include h hmodel hfuel

/-! ### Paths -/

/-- The sides of two path properties are safe, and those without thresholds are the same and depend on
the state alone. -/
structure Sides (H : Halt R → Prop) (A : Params R → Prop) (u' u : UntilCheck R G) : Prop where
  related : u'.Related (Run.Safely H A) u
  settled : ∀ side s, (u.side side).probabilistic = false →
    (u'.side side).check s = (u.side side).check s ∧ ∃ b, ((u.side side).check s).Settled b

namespace Sides

omit [Scalar R] [Distributions R] h hmodel hfuel

variable (hu : Sides H A u' u)

include hu

/-- Nothing is asked of the parameters if there are no checks inside the path. -/
theorem of_free (hfree : u.isProbabilistic = false) {v : Verifier R G} (hv : A v.params) :
    u'.Related (Run.Safely H fun _ => True) u where
  id := hu.related.id
  lower := hu.related.lower
  upper := hu.related.upper
  probabilistic := hu.related.probabilistic
  check side s := by
    obtain ⟨hpre, hpost⟩ := Bool.or_eq_false_iff.1 hfree
    have hside : (u.side side).probabilistic = false := by
      cases side
      exacts [hpre, hpost]
    obtain ⟨heq, b, hb⟩ := hu.settled side s hside
    have hsafe := hu.related.check side s
    rw [heq] at hsafe ⊢
    exact .of_settled hb hsafe (σ := ⟨v, ()⟩) hv

end Sides

/-- A path within its budget, of which there is none if there are no checks inside it. -/
theorem simulate (hu : Sides H A u' u) (s : State R) (v : Verifier R G) (hv : A v.params) :
    Safe H A (SimCheck.simulate sim u' s (u.nestedError v.params))
      (SimCheck.simulate sim u s (u.nestedError v.params)) fun _ => True := by
  unfold UntilCheck.nestedError
  cases hprobabilistic : u.isProbabilistic with
  | true => exact Safe.simulate hu.related hmodel h.toSpends hfuel sim.fuel s (h.nested _ hv)
  | false =>
    exact (Safe.simulate (hu.of_free hprobabilistic hv) hmodel .always hfuel sim.fuel s
      trivial).weaken fun _ _ => trivial

/-! ### Tests -/

omit hmodel hfuel in
theorem openTest (hu : Sides H A u' u) {bound : R} (hbound : 0 ≤ bound ∧ bound ≤ 1) (s : State R) :
    Safe H A (k.openTest u' bound s : Run R (Session R G S) (ThresholdTest R))
      (SimCheck.openTest u bound s) fun _ => True := by
  refine Safe.verifier_bind fun v hv => ?_
  obtain ⟨heq, hfault⟩ :=
    h.create bound v.params _ hbound.1 hbound.2 hv (u.nestedError_eq_or v.params)
  rw [hu.related.nestedError_eq, hu.related.id]
  dsimp only
  rw [heq]
  refine Safe.bind (.ofExcept hfault) fun t _ => ?_
  unfold ThresholdTest.resumeFrom
  cases v.params.memoization with
  | false => exact .pure trivial
  | true => cases v.cache.get? ⟨u.id, s.values⟩ <;> exact .pure trivial

omit [Distributions R] h hmodel hfuel in
theorem closeTest (hu : Sides H A u' u) (s : State R) (t : ThresholdTest R) :
    Safe H A (SimCheck.closeTest u' s t : Run R (Session R G S) Unit) (SimCheck.closeTest u s t)
      fun _ => True := by
  intro σ _
  rw [closeTest_eq, closeTest_eq]
  unfold Verifier.close
  rw [hu.related.id]
  exact ⟨rfl, trivial, rfl⟩

theorem runTest (hu : Sides H A u' u) (src : SampleSource R S) {bound : R}
    (hbound : 0 ≤ bound ∧ bound ≤ 1) (s : State R) :
    Safe H A (k.runTest sim src u' bound s) (SimCheck.runTest sim src u bound s) fun _ => True := by
  refine Safe.bind (h.openTest hu hbound s) fun t _ => Safe.params_bind fun v hv => ?_
  have hpath := h.simulate hmodel hfuel hu s v hv
  rw [hu.related.nestedError_eq, hu.related.id]
  refine Safe.weaken (A := A) ?_ fun p hp => hp ▸ hv
  refine Safe.bind ((Safe.basic hfuel).completeTest hpath src u.id s sim.fuel t) fun t _ => ?_
  exact Safe.bind (closeTest hu s t) fun _ _ => .pure trivial

theorem checkThreshold (hu : Sides H A u' u) (src : SampleSource R S) (op : ThresholdOp) {bound : R}
    (hbound : 0 ≤ bound ∧ bound ≤ 1) (s : State R) :
    Safe H A (k.checkThreshold sim src u' op bound s) (SimCheck.checkThreshold sim src u op bound s)
      fun _ => True := by
  unfold SimCheck.checkThreshold Constructors.checkThreshold
  cases Property.trivialVerdict? op bound with
  | some verdict => exact .pure trivial
  | none => exact .nested (h.runTest hmodel hfuel hu src hbound s)

end Regime

/-! ### Properties -/

/-- A check without thresholds is the same with other constructors, and depends on the state alone. -/
theorem Constructors.check_settled (k : Constructors R) (sim : Simulator R G) (p : Property R)
    (s : State R) (hfree : p.isProbabilistic = false) :
    k.check sim (.simulating R) p s = SimCheck.check sim (.simulating R) p s ∧
      ∃ b, (SimCheck.check sim (.simulating R) p s).Settled b :=
  ⟨k.check_of_free sim (.simulating R) p s hfree, _,
    SimCheck.check_settled sim (.simulating R) s (fun _ => false) [] p hfree⟩

/-- The sides of a path property with other constructors and without. -/
theorem Regime.Sides.of_checks {sim : Simulator R G} {path : PathProperty R}
    (hpre : ∀ s, Run.Safely H A Unit Bool (k.check sim (.simulating R) path.pre s)
      (SimCheck.check sim (.simulating R) path.pre s))
    (hpost : ∀ s, Run.Safely H A Unit Bool (k.check sim (.simulating R) path.post s)
      (SimCheck.check sim (.simulating R) path.post s)) :
    Sides H A (k.checks sim path) (path.checks sim) where
  related := .of_sides hpre hpost
  settled side s hfree := by
    cases side with
    | pre => exact k.check_settled sim path.pre s hfree
    | post => exact k.check_settled sim path.post s hfree

mutual

/-- **A check halts for no other reasons than the model and the expressions, whatever constructors do
with arguments that they do not admit.** -/
theorem Regime.check (h : Regime H A B k) {sim : Simulator R G}
    (hmodel : ∀ s g f, sim.model s g = .error f → H (.fault f)) (hfuel : H .outOfFuel) {S : Type}
    (src : SampleSource R S) : ∀ (p : Property R) (s : State R),
      (∀ e ∈ p.expressions, ∀ t f, e.holds t = .error f → H (.fault f)) →
      (∀ b ∈ p.thresholdBounds, 0 ≤ b ∧ b ≤ 1) →
        Safe H A (k.check sim src p s) (SimCheck.check sim src p s) fun _ => True
  | .expr e, s, he, _ => .ofExcept fun f hf => he e (List.mem_singleton_self e) s f hf
  | .not p, s, he, hb => by
    rw [SimCheck.check, Constructors.check]
    exact .negation h.toDivides (h.check hmodel hfuel src p s he hb)
  | .combine c head ps, s, he, hb => by
    obtain ⟨hhead, hrest⟩ := List.forall_mem_append.1 he
    rw [SimCheck.check, Constructors.check]
    refine .combine ?_ (h.operands hmodel hfuel src ps s hrest hb) c h.toDivides
    cases head with
    | none => exact .none
    | some e => exact .some (.ofExcept fun f hf => hhead e (List.mem_singleton_self e) s f hf)
  | .threshold op bound (.until id lower upper pre post), s, he, hb => by
    obtain ⟨hbound, hsides⟩ := List.forall_mem_cons.1 hb
    obtain ⟨hpre, hpost⟩ := List.forall_mem_append.1 hsides
    obtain ⟨hpre', hpost'⟩ := List.forall_mem_append.1 he
    rw [SimCheck.check, Constructors.check]
    have hsides : Regime.Sides H A (k.checks sim (.until id lower upper pre post))
        ((PathProperty.until id lower upper pre post).checks sim) :=
      .of_checks (h.check hmodel hfuel (.simulating R) pre · hpre' hpre)
        (h.check hmodel hfuel (.simulating R) post · hpost' hpost)
    exact h.checkThreshold hmodel hfuel hsides src op hbound s

/-- So do the operands of a connective. -/
theorem Regime.operands (h : Regime H A B k) {sim : Simulator R G}
    (hmodel : ∀ s g f, sim.model s g = .error f → H (.fault f)) (hfuel : H .outOfFuel) {S : Type}
    (src : SampleSource R S) : ∀ (ps : List (Property R)) (s : State R),
      (∀ e ∈ Property.expressionsOf ps, ∀ t f, e.holds t = .error f → H (.fault f)) →
      (∀ b ∈ Property.thresholdBoundsOf ps, 0 ≤ b ∧ b ≤ 1) →
        List.Forall₂ (Operand.Related (Run.Safely H A S)) (k.operands sim src ps s)
          (SimCheck.operands sim src ps s)
  | [], _, _, _ => by
    rw [SimCheck.operands, Constructors.operands]
    exact .nil
  | p :: ps, s, he, hb => by
    obtain ⟨hp, hps⟩ := List.forall_mem_append.1 he
    obtain ⟨hp', hps'⟩ := List.forall_mem_append.1 hb
    rw [SimCheck.operands, Constructors.operands]
    exact .cons ⟨rfl, h.check hmodel hfuel src p s hp hp'⟩ (h.operands hmodel hfuel src ps s hps hps')

end

end SimCheck
