import SimCheck.Proofs.Precondition.Params
import SimCheck.Proofs.Termination.Check
import SimCheck.Proofs.Time.Silence
import SimCheck.Scalar.Exact

/-!
# Translation in time

A check looks at the clock only to tell how long ago a path began.  If the model and the expressions
read the values of states alone, and times are added exactly, a check that begins later does everything
later and ends alike.

* `State.later`, `Trace.later`, `Walk.later`: everything a path knows, by a time `c` later;
* `Translates c`: elapsed times are the same by the time `c` later;
* `walk_later`, `simulate_later`: paths;
* `check_later`: checks, by induction on the tree;
* `Session.verify_translated`: verifications that begin at different times.
-/

namespace SimCheck

variable {R G S : Type}

/-! ### Later by a time -/

/-- The model looks at the values of a state and not at its time. -/
def Model.IgnoresTime (model : Model R G) : Prop := ∀ s t, s.values = t.values → model s = model t

/-- The source looks at the values that a test starts from and not at their time. -/
def SampleSource.IgnoresTime (src : SampleSource R S) : Prop :=
  ∀ id s t, s.values = t.values → src.beginRun id s = src.beginRun id t

theorem SampleSource.simulating_ignoresTime : (SampleSource.simulating R).IgnoresTime :=
  fun _ _ _ _ => rfl

section Later

variable [Scalar R] (c : R)

/-- Times are added and subtracted as exact ones are, as far as a time `c` goes. -/
structure Translates : Prop where
  add_right_comm : ∀ t d : R, t + c + d = t + d + c
  elapsed : ∀ t o : R, t + c - (o + c) = t - o

/-- The same values at a later time. -/
def State.later (s : State R) : State R := ⟨s.values, s.time + c⟩

@[simp] theorem State.values_later (s : State R) : (s.later c).values = s.values := rfl

def Finding.later : Finding R → Finding R
  | .known holds => .known holds
  | .deferred s => .deferred (s.later c)

def Step.later (s : Step R) : Step R := ⟨s.side, s.finding.later c⟩

def Trace.later (t : Trace R) : Trace R := { t with pending := t.pending.map (Step.later c) }

def Visit.later (v : Visit R) : Visit R := { v with trace := v.trace.later c }

def Walk.later (w : Walk R) : Walk R :=
  { w with state := w.state.later c, trace := w.trace.later c }

def Progress.later : Progress R → Progress R
  | .ended path => .ended path
  | .ongoing w => .ongoing (w.later c)

variable {c}

theorem Translates.successor (hc : Translates c) (s : State R) (t : Transition R) :
    (s.later c).successor t = (s.successor t).later c :=
  congrArg (State.mk t.values) (hc.add_right_comm s.time t.dwell)

/-! ### Traces -/

@[simp] theorem Step.isFinal_later (s : Step R) : (s.later c).isFinal = s.isFinal := by
  obtain ⟨side, finding⟩ := s
  cases finding <;> rfl

@[simp] theorem Step.isDeferred_later (s : Step R) : (s.later c).isDeferred = s.isDeferred := by
  obtain ⟨side, finding⟩ := s
  cases finding <;> rfl

namespace Trace

theorem push_later (t : Trace R) (s : Step R) :
    (t.later c).push (s.later c) = (t.push s).later c := by
  unfold push
  rw [Step.isFinal_later, Step.isDeferred_later]
  split_ifs <;> rfl

theorem hasDeferred_later (t : Trace R) : (t.later c).hasDeferred = t.hasDeferred := by
  show (t.pending.map (Step.later c)).any Step.isDeferred = t.pending.any Step.isDeferred
  simp [Function.comp_def]

theorem newPreValues_later (t : Trace R) : (t.later c).newPreValues = t.newPreValues := by
  unfold newPreValues later
  rw [List.filterMap_map]
  congr 2
  funext s
  obtain ⟨side, finding⟩ := s
  cases side <;> cases finding <;> rfl

theorem deferredPosts_later (t : Trace R) : (t.later c).deferredPosts = t.deferredPosts := by
  unfold deferredPosts later
  rw [List.countP_map]
  congr 1
  funext s
  obtain ⟨side, finding⟩ := s
  cases side <;> cases finding <;> rfl

theorem checkCount_later (t : Trace R) : (t.later c).checkCount = t.checkCount := by
  rw [checkCount, checkCount, newPreValues_later, deferredPosts_later]

end Trace

/-! ### Pending checks -/

section Pending

variable {check : Side → State R → Run R (Session R G Unit) Bool}
  (hcheck : ∀ side s, Follows id (check side s) (check side (s.later c)))

include hcheck

theorem settle_later (step : Step R) (seen : List (Valuation × Bool)) :
    Follows id (Trace.settle check step seen) (Trace.settle check (step.later c) seen) := by
  obtain ⟨side, finding⟩ := step
  cases finding with
  | known holds => cases side <;> exact .pure rfl
  | deferred s =>
    cases side with
    | post => exact (hcheck .post s).bind fun _ => .pure rfl
    | pre =>
      -- Verdicts on the left side are looked up by values.
      unfold Trace.settle Step.later Finding.later
      dsimp only [State.values_later]
      cases seen.lookup s.values with
      | some holds => exact .pure rfl
      | none => exact (hcheck .pre s).bind fun _ => .pure rfl

theorem replay_later (steps : List (Step R)) (seen : List (Valuation × Bool)) :
    Follows id (Trace.replay check steps seen)
      (Trace.replay check (steps.map (Step.later c)) seen) := by
  induction steps generalizing seen with
  | nil => exact .pure rfl
  | cons step steps ih =>
    refine (settle_later hcheck step seen).bind fun r => ?_
    have hside : (step.later c).side = step.side := rfl
    rw [hside]
    dsimp only [id]
    cases step.side.outcome r.1 with
    | «open» => exact ih r.2
    | satisfied => exact .pure rfl
    | violated => exact .pure rfl

theorem resolve_later (t : Trace R) (bound : R) :
    Follows (Prod.map id (Trace.later c)) (t.resolve check bound) ((t.later c).resolve check bound) := by
  unfold Trace.resolve
  rw [Trace.checkCount_later]
  refine .bind (f := id) (.withinBounds _ ?_) fun r => .pure rfl
  show Follows id _ (Trace.replay check (t.pending.map (Step.later c)).reverse t.preVerdicts)
  rw [← List.map_reverse]
  exact replay_later hcheck _ _

end Pending

/-! ### Paths -/

/-- The checks of both sides end alike from a later time. -/
def EndsLater (c : R) (u : UntilCheck R G) : Prop :=
  ∀ side s, Follows id ((u.side side).check s) ((u.side side).check (s.later c))

section Paths

variable {u : UntilCheck R G} (hu : EndsLater c u)

include hu

theorem record_later (side : Side) (s : State R) (t : Trace R) :
    Follows (Prod.map (Trace.later c) id) (u.record side s t)
      (u.record side (s.later c) (t.later c)) := by
  have hobserve : Follows (Step.later c) (u.observe side s) (u.observe side (s.later c)) := by
    refine .ite (.pure rfl) ?_
    exact (hu side s).bind fun _ => .pure rfl
  refine hobserve.bind fun step => .pure ?_
  rw [Trace.push_later, Step.isFinal_later]
  rfl

theorem finish_later (t : Trace R) (length : ℕ) (cutOff : Bool) :
    Follows (Progress.later c) (Walk.finish u t length cutOff)
      (Walk.finish u (t.later c) length cutOff) :=
  (resolve_later hu t t.budget).bind fun _ => .pure rfl

theorem resolvePrefix_later (t : Trace R) (length : ℕ) :
    Follows (Prod.map id (Trace.later c)) (Walk.resolvePrefix u t length)
      (Walk.resolvePrefix u (t.later c) length) := by
  refine .bind (f := id) (.report _ _) fun _ => ?_
  exact resolve_later hu { t with budget := t.budget - t.budget / 2.0 } _

variable {model : Model R G} (hmodel : model.IgnoresTime)

include hmodel

theorem visit_later (elapsed : R) (s : State R) (t : Trace R) :
    Follows (Visit.later c) (Walk.visit model u elapsed s t)
      (Walk.visit model u elapsed (s.later c) (t.later c)) := by
  refine .ite ?_ ?_
  · refine (record_later hu .post s t).bind fun r => .ite (.pure rfl) ?_
    exact (record_later hu .pre s r.1).bind fun _ => .pure rfl
  · refine (record_later hu .pre s t).bind fun r => .ite (.pure rfl) ?_
    refine .bind (f := id) (.transition (hmodel _ _ rfl)) fun drawn => .ite ?_ (.pure rfl)
    exact (record_later hu .post s r.1).bind fun _ => .pure rfl

variable (hc : Translates c)

include hc

omit hmodel in
theorem leave_later (origin : R) (w : Walk R) (t : Transition R) :
    Follows (Progress.later c) (Walk.leave u origin w t)
      (Walk.leave u (origin + c) (w.later c) t) := by
  have hnext : (w.later c).state.successor t = (w.state.successor t).later c :=
    hc.successor w.state t
  have helapsed : ((w.state.successor t).later c).time - (origin + c)
      = (w.state.successor t).time - origin := hc.elapsed _ _
  unfold Walk.leave
  rw [hnext]
  dsimp only
  rw [helapsed]
  exact .ite (finish_later hu _ _ _) (.ite (finish_later hu _ _ _) (.pure rfl))

theorem goOn_later (origin : R) (w : Walk R) (drawn : Option (Transition R)) :
    Follows (Progress.later c) (Walk.goOn model u origin w drawn)
      (Walk.goOn model u (origin + c) (w.later c) drawn) := by
  refine Follows.params.bind fun p => .ite (finish_later hu _ _ _) ?_
  cases drawn with
  | some t => exact .bind (f := id) (.pure rfl) fun t => leave_later hu hc origin w t
  | none =>
    exact .bind (f := id) (.transition (hmodel _ _ rfl)) fun t => leave_later hu hc origin w t

theorem advance_later (origin : R) (w : Walk R) :
    Follows (Progress.later c) (Walk.advance model u origin w)
      (Walk.advance model u (origin + c) (w.later c)) := by
  have helapsed : (w.later c).state.time - (origin + c) = w.state.time - origin := hc.elapsed _ _
  unfold Walk.advance
  rw [helapsed]
  refine (visit_later hu hmodel _ w.state w.trace).bind fun v => .ite (finish_later hu _ _ _) ?_
  have hdeferred : (v.later c).trace.hasDeferred = v.trace.hasDeferred := v.trace.hasDeferred_later
  rw [hdeferred]
  refine .ite ?_ (goOn_later hu hmodel hc origin { w with trace := v.trace } v.drawn)
  refine (resolvePrefix_later hu v.trace w.length).bind fun r => ?_
  obtain ⟨outcome, t⟩ := r
  cases outcome with
  | «open» =>
    exact goOn_later hu hmodel hc origin { w with checkpoint := 2 * w.checkpoint, trace := t } v.drawn
  | satisfied => exact .pure rfl
  | violated => exact .pure rfl

/-- **A walk that begins later does everything later and ends alike.** -/
theorem walk_later (origin : R) (fuel : ℕ) (w : Walk R) :
    Follows id (Walk.run model u origin fuel w) (Walk.run model u (origin + c) fuel (w.later c)) := by
  induction fuel generalizing w with
  | zero => exact .throw _
  | succ fuel ih =>
    refine (advance_later hu hmodel hc origin w).bind fun p => ?_
    cases p with
    | ended path => exact .pure rfl
    | ongoing w => exact ih w

theorem simulate_later (fuel : ℕ) (s : State R) (budget : R) :
    Follows id (simulate ⟨model, fuel⟩ u s budget) (simulate ⟨model, fuel⟩ u (s.later c) budget) := by
  have hcount (g : Stats R → Stats R) : Follows id
      (Run.modifyStats g : Run R (Session R G Unit) Unit) (Run.modifyStats g) :=
    .modifyVerifier fun _ _ => rfl
  refine (walk_later hu hmodel hc s.time fuel (.start s budget)).bind fun path => ?_
  refine (hcount _).bind fun _ => ?_
  exact .ite ((hcount _).bind fun _ => .pure rfl) (.pure rfl)

end Paths

/-! ### Tests -/

section Tests

variable [Distributions R] {u : UntilCheck R G}

/-- A test is opened with the sample that is kept for the values. -/
theorem openTest_later (u : UntilCheck R G) (bound : R) (s : State R) :
    Follows id (openTest u bound s : Run R (Session R G S) (ThresholdTest R))
      (openTest u bound (s.later c)) := by
  refine Follows.verifier_bind fun v es => (Follows.ofExcept _).bind fun t => .ite ?_ (.pure rfl)
  dsimp only [State.values_later, id]
  cases v.cache.get? ⟨u.id, s.values⟩ with
  | some sample => exact .pure rfl
  | none => exact .pure rfl

omit [Distributions R] in
/-- Its sample is kept for the values, and its report mentions the time. -/
theorem closeTest_later (u : UntilCheck R G) (s : State R) (t : ThresholdTest R) :
    Follows id (closeTest u s t : Run R (Session R G S) Unit) (closeTest u (s.later c) t) := by
  intro σ es
  rw [closeTest_eq, closeTest_eq]
  rfl

theorem completeTest_later {src : SampleSource R S} (hsrc : src.IgnoresTime) (model : Model R G)
    {path path' : Run R (Session R G Unit) Bool} (hpath : Follows id path path') (id : PropertyId)
    (s : State R) (fuel : ℕ) (t : ThresholdTest R) :
    Follows (fun t => t) (completeTest src id s path fuel t)
      (completeTest src id (s.later c) path' fuel t) := by
  have hbegin : src.beginRun id (s.later c) = src.beginRun id s := hsrc id _ _ rfl
  unfold completeTest Run.beginRun
  rw [hbegin]
  exact (Follows.congruence model).completeTest hpath src id s fuel t

variable {model : Model R G} (hmodel : model.IgnoresTime) (hc : Translates c) (hu : EndsLater c u)
  {src : SampleSource R S} (hsrc : src.IgnoresTime)

include hmodel hc hu hsrc

theorem runTest_later (fuel : ℕ) (bound : R) (s : State R) :
    Follows id (runTest ⟨model, fuel⟩ src u bound s) (runTest ⟨model, fuel⟩ src u bound (s.later c)) := by
  refine (openTest_later u bound s).bind fun t => Follows.params.bind fun p => ?_
  have hpath := simulate_later hu hmodel hc fuel s (u.nestedError p)
  refine (completeTest_later hsrc model hpath u.id s fuel t).bind fun t => ?_
  exact (closeTest_later u s t).bind fun _ => .pure rfl

theorem checkThreshold_later (fuel : ℕ) (op : ThresholdOp) (bound : R) (s : State R) :
    Follows id (checkThreshold ⟨model, fuel⟩ src u op bound s)
      (checkThreshold ⟨model, fuel⟩ src u op bound (s.later c)) := by
  unfold checkThreshold
  cases Property.trivialVerdict? op bound with
  | some verdict => exact .pure rfl
  | none => exact (runTest_later hmodel hc hu hsrc fuel bound s).nested

end Tests

/-! ### Checks -/

section Checks

variable [Distributions R] {sim : Simulator R G}

mutual

/-- **A check that begins later ends alike.** -/
theorem check_later (hmodel : sim.model.IgnoresTime) (hc : Translates c) {S : Type}
    {src : SampleSource R S} (hsrc : src.IgnoresTime) :
    ∀ (p : Property R) (s : State R), (∀ e ∈ p.expressions, e.IgnoresTime) →
      Follows id (check sim src p s) (check sim src p (s.later c))
  | .expr e, s, he => by
    rw [check, check, he e (List.mem_singleton_self e) (s.later c) s rfl]
    exact .ofExcept _
  | .not p, s, he =>
    ((Follows.congruence sim.model).verdict S).negation (check_later hmodel hc hsrc p s he)
  | .combine connective head ps, s, he => by
    obtain ⟨hhead, hps⟩ := List.forall_mem_append.1 he
    refine ((Follows.congruence sim.model).verdict S).combine ?_
      (operands_later hmodel hc hsrc ps s hps) connective
    cases head with
    | none => exact .none
    | some e =>
      refine .some ?_
      dsimp only
      rw [hhead e (List.mem_singleton_self e) (s.later c) s rfl]
      exact .ofExcept _
  | .threshold op bound (.until id lower upper pre post), s, he => by
    obtain ⟨hpre, hpost⟩ := List.forall_mem_append.1 he
    refine checkThreshold_later hmodel hc ?_ hsrc sim.fuel op bound s
    intro side t
    cases side with
    | pre => exact check_later hmodel hc SampleSource.simulating_ignoresTime pre t hpre
    | post => exact check_later hmodel hc SampleSource.simulating_ignoresTime post t hpost

/-- So do the operands of a connective. -/
theorem operands_later (hmodel : sim.model.IgnoresTime) (hc : Translates c) {S : Type}
    {src : SampleSource R S} (hsrc : src.IgnoresTime) :
    ∀ (ps : List (Property R)) (s : State R),
      (∀ e ∈ Property.expressionsOf ps, e.IgnoresTime) →
      List.Forall₂ (Operand.Related fun _ => Follows id) (operands sim src ps s)
        (operands sim src ps (s.later c))
  | [], _, _ => .nil
  | p :: ps, s, he => by
    obtain ⟨hp, hps⟩ := List.forall_mem_append.1 he
    exact .cons ⟨rfl, check_later hmodel hc hsrc p s hp⟩ (operands_later hmodel hc hsrc ps s hps)

end

end Checks

end Later

/-! ### Exact times -/

/-- Elapsed times do not change by a finite time. -/
theorem Exact.translates (c : ℝ) : Translates (c : EReal) where
  add_right_comm t d := add_right_comm t (c : EReal) d
  elapsed t o := by
    show (t + c - (o + c) : EReal) = t - o
    rw [EReal.add_sub_add_comm (.inr (EReal.coe_ne_top c)) (.inr (EReal.coe_ne_bot c)),
      EReal.sub_self (EReal.coe_ne_top c) (EReal.coe_ne_bot c), add_zero]

/-- Every finite time comes a finite time later than any other. -/
theorem State.later_coe (values : Valuation) (t₁ t₂ : ℝ) :
    State.later ((t₂ - t₁ : ℝ) : EReal) ⟨values, t₁⟩ = ⟨values, t₂⟩ := by
  have htime : ((t₁ : EReal) + ((t₂ - t₁ : ℝ) : EReal)) = t₂ := by
    rw [← EReal.coe_add, add_sub_cancel]
  exact congrArg (State.mk values) htime

/-- **Verification is invariant under translations in time.**  From the same values at two finite times
it halts alike, or it ends with the same verdict and in sessions that are the same but for the reports:
in generator, statistics, cache and parameters.  So do the checks that it consists of, in whichever
sessions, which is why samples and verdicts on left sides may be looked up by values. -/
theorem Session.verify_translated [Distributions EReal] {sim : Simulator EReal G}
    (hmodel : sim.model.IgnoresTime) {p : Property EReal} (hp : ∀ e ∈ p.expressions, e.IgnoresTime)
    (values : Valuation) (t₁ t₂ : ℝ) :
    (∀ σ : Session EReal G Unit,
      (verify sim (.simulating EReal) p ⟨values, t₂⟩ σ).map (Prod.map id silent)
        = (verify sim (.simulating EReal) p ⟨values, t₁⟩ σ).map (Prod.map id silent)) ∧
    ∀ σ : Session EReal G Unit,
      (check sim (.simulating EReal) p ⟨values, t₂⟩ σ).map (Prod.map id silent)
        = (check sim (.simulating EReal) p ⟨values, t₁⟩ σ).map (Prod.map id silent) := by
  have hcheck : Follows id (check sim (.simulating EReal) p ⟨values, t₁⟩)
      (check sim (.simulating EReal) p ⟨values, t₂⟩) := by
    have h := check_later hmodel (Exact.translates (t₂ - t₁)) SampleSource.simulating_ignoresTime p
      ⟨values, t₁⟩ hp
    rwa [State.later_coe] at h
  have hverify : Follows id (verify sim (.simulating EReal) p ⟨values, t₁⟩)
      (verify sim (.simulating EReal) p ⟨values, t₂⟩) :=
    .bind (f := id) (.modifyVerifier fun _ _ => rfl) fun _ => hcheck
  exact ⟨fun σ => hverify σ σ.verifier.events, fun σ => hcheck σ σ.verifier.events⟩

/-! ### A test within a test, at two times -/

namespace Clockwork

noncomputable abbrev distributions : Distributions EReal := ⟨fun _ _ _ => 0, fun _ _ => 0⟩

/-- `x0` is counted up after a unit of time; the generator counts the transitions. -/
noncomputable def simulator : Simulator EReal ℕ where
  model s drawn := .ok (⟨s.values.map (· + 1), 1⟩, drawn + 1)
  fuel := 8

/-- The values are these and no others. -/
def reached (values : Valuation) : Expression EReal :=
  ⟨toString (values.map (·.toInt)), fun s => .ok (s.values == values)⟩

/-- While `x0` is zero it is most likely that it comes to be two within three units of time. -/
noncomputable def property : Property EReal :=
  .threshold .atLeast 0.5 (.unbounded ⟨1⟩ (.expr (reached [0]))
    (.threshold .atLeast 0.5 (.until ⟨2⟩ 1 3 (.expr (.constant true)) (.expr (reached [2])))))

noncomputable def params : Params EReal :=
  { Params.default with
    delta := ((1 / 4 : ℝ) : EReal), nestedError := some ((1 / 4 : ℝ) : EReal)
    thresholdAlgorithm := .fixed, fixedSampleSize := 2, maxPathLength := some 4, memoization := true }

noncomputable def session : Session EReal ℕ Unit := ⟨⟨params, 0, ∅, ∅, 0, []⟩, ()⟩

theorem property_ignoresTime : ∀ e ∈ property.expressions, e.IgnoresTime := by
  have hreached (values : Valuation) : (reached values).IgnoresTime := by
    intro s t h
    simp only [reached, h]
  simp only [property, PathProperty.unbounded, Property.expressions, List.singleton_append,
    List.forall_mem_cons, List.not_mem_nil, false_imp_iff, implies_true, and_true]
  exact ⟨hreached [0], Expression.constant_ignoresTime true, hreached [2]⟩

/-- A fixed test of either threshold can be opened: the ends of its region are in order. -/
theorem create_eq_ok {q : Params EReal} (hq : params.SameButBounds q) {error : EReal}
    (herror : error = 0 ∨ error = q.nestedErrorBound) :
    let _ := distributions
    ∃ t, ThresholdTest.create q.thresholdAlgorithm (Region.around 0.5 q.delta error) q = .ok t := by
  intro _
  have hleeway : Leeway (1 / 4) (1 / 4) := .of_lt (by norm_num) (by norm_num) (by norm_num)
  obtain ⟨b, rfl⟩ : ∃ b, q = params.withBounds b := ⟨q.bounds, hq.eq_withBounds⟩
  obtain ⟨e, rfl, he⟩ : ∃ e : ℝ, error = e ∧ (e = 0 ∨ e = 1 / 4) := by
    rcases herror with rfl | rfl
    · exact ⟨0, rfl, .inl rfl⟩
    · exact ⟨1 / 4, rfl, .inr rfl⟩
  rw [Exact.half_eq]
  let region := Region.around ((1 / 2 : ℝ) : EReal) ((1 / 4 : ℝ) : EReal) e
  have hregion : region.theta1 ≤ region.theta0 := hleeway.around_le (by norm_num) (by norm_num) he
  have hfixed : FixedTest.create region 2 = .ok ⟨region, 2, ∅, none⟩ :=
    (if_pos hregion).trans (if_pos Nat.two_pos)
  exact ⟨.fixed ⟨region, 2, ∅, none⟩, congrArg (Except.map ThresholdTest.fixed) hfixed⟩

/-- Nothing can go wrong but that fuel is spent. -/
theorem property_faultless :
    let _ := distributions
    ∀ f, ¬property.Faults simulator params f := by
  rintro _ f (⟨s, g, hmodel⟩ | ⟨e, he, s, hholds⟩ | ⟨bound, hbound, q, error, hq, herror, hcreate⟩)
  · cases hmodel
  · simp only [property, PathProperty.unbounded, Property.expressions, List.singleton_append,
      List.mem_cons, List.not_mem_nil, or_false] at he
    rcases he with rfl | rfl | rfl <;> cases hholds
  · simp only [property, PathProperty.unbounded, Property.thresholdBounds, List.append_nil,
      List.nil_append, List.mem_cons, List.not_mem_nil, or_false, or_self] at hbound
    obtain ⟨t, ht⟩ := create_eq_ok hq herror
    rw [hbound, ht] at hcreate
    cases hcreate

/-- The verification ends at both times. -/
theorem verify_translated_clockwork :
    let _ := distributions
    simulator.model.IgnoresTime ∧ (∀ e ∈ property.expressions, e.IgnoresTime) ∧
      ∃ b τ τ', Session.verify simulator (.simulating EReal) property ⟨[0], ((0 : ℝ) : EReal)⟩ session
          = .ok (b, τ) ∧
        Session.verify simulator (.simulating EReal) property ⟨[0], ((12 : ℝ) : EReal)⟩ session
          = .ok (b, τ') ∧
        τ'.silent = τ.silent := by
  intro _
  have hmodel : simulator.model.IgnoresTime := by
    intro s t h
    simp only [simulator, h]
  refine ⟨hmodel, property_ignoresTime, ?_⟩
  obtain ⟨hverify, -⟩ := Session.verify_translated hmodel property_ignoresTime [0] 0 12
  obtain ⟨b, τ, hτ, -⟩ | ⟨f, -, hf⟩ :=
    Session.verify_terminates simulator property ⟨[0], ((0 : ℝ) : EReal)⟩ session rfl (by decide)
      (show 2 ≤ 8 by decide)
  · have hlater := hverify session
    rw [hτ] at hlater
    cases h : Session.verify simulator (.simulating EReal) property ⟨[0], ((12 : ℝ) : EReal)⟩ session with
    | error e =>
      rw [h] at hlater
      cases hlater
    | ok r =>
      rw [h] at hlater
      obtain ⟨hverdict, hsilent⟩ := Prod.mk.inj (Except.ok.inj hlater)
      exact ⟨b, τ, r.2, hτ, congrArg Except.ok (Prod.ext hverdict rfl), hsilent⟩
  · exact (property_faultless f hf).elim

end Clockwork

end SimCheck
