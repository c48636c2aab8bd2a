import SimCheck.Proofs.Precondition.Check
import SimCheck.Proofs.Termination.Path

/-!
# Capped verifications terminate

A verification whose paths are cut off and whose tests have quotas goes round three kinds of loops: the
states of a path, the observations of a test, and the pending checks of a path, which are verifications
themselves.  Each loop has its own bound, whatever the model, the generator and the cache are like, so
that the verification ends by induction on the property.

* `Run.draw_simulating`: what the simulating source draws is a path;
* `Ends.observing`: a test draws no more than what is missing from its quota;
* `Ends.postingTest`: a test ends if its paths do;
* `postingCheck_ends`: whole checks;
* `Property.Faults`: what a check can come to grief over;
* `Session.verify_terminates`: calls;
* `Standstill`: paths that no transition brings any further.
-/

namespace SimCheck

open Run (Ends)

variable {R G : Type}

/-- The simulating source has a path simulated. -/
theorem Run.draw_simulating (path : Run R (Session R G Unit) Bool) :
    draw (.simulating R) path = path := by
  funext ⟨v, source⟩
  show (locally path >>= fun b => follow path (.answer b ())) ⟨v, source⟩ = path ⟨v, source⟩
  cases hpath : path ⟨v, ()⟩ with
  | error e =>
    have hlocally : locally path ⟨v, source⟩ = .error e := by rw [locally_apply, hpath]; rfl
    exact bind_eq_error.2 (.inl hlocally)
  | ok r =>
    have hlocally : locally path ⟨v, source⟩ = .ok r := by rw [locally_apply, hpath]; rfl
    exact bind_eq_ok.2 ⟨r.1, r.2, hlocally, rfl⟩

variable [Scalar R]

theorem Sample.count_foldl_push (s : Sample R) (xs : List R) :
    (xs.foldl push s).count = s.count + xs.length := by
  induction xs generalizing s with
  | nil => rfl
  | cons x xs ih =>
    rw [List.foldl_cons, ih, count_push, List.length_cons]
    omega

/-! ### Tests -/

namespace Run.Ends

variable [Distributions R] {p : Params R} {L : ℕ} {F : Fault R → Prop}

section Observations

variable {path : Run R (Session R (G × Ledger) Unit) Bool} (hpath : Ends p L F path fun _ => True)

include hpath

/-- **A test draws no more than what is missing from its quota.**  A sample that it has started over from
may exceed the quota, and then it draws nothing. -/
theorem observing {fuel quota : ℕ} {t : ThresholdTest R} (ht : t.Limited quota)
    (hfuel : quota ≤ fuel + t.sample.count) :
    Ends p L F (SimCheck.observing (.simulating R) path fuel t) fun r =>
      r.1.quota? = some quota ∧ r.2.length ≤ quota - t.sample.count := by
  induction fuel generalizing t with
  | zero =>
    refine ite (fun _ => pure ⟨ht.quota_eq, Nat.zero_le _⟩) fun hopen => ?_
    have hroom := ht.room (eq_false_of_ne_true hopen)
    omega
  | succ fuel ih =>
    refine ite (fun _ => pure ⟨ht.quota_eq, Nat.zero_le _⟩) fun hopen => ?_
    have hopen := eq_false_of_ne_true hopen
    have hroom := ht.room hopen
    have hcount (b : Bool) : (t.push b).sample.count = t.sample.count + 1 := by
      rw [ThresholdTest.sample_push, Sample.count_pushBool]
    rw [draw_simulating]
    refine bind hpath fun b _ => bind (ih (ht.push hopen b) (by rw [hcount]; omega)) fun r hr => ?_
    obtain ⟨hquota, hdrawn⟩ := hr
    rw [hcount] at hdrawn
    exact pure ⟨hquota, by rw [List.length_cons]; omega⟩

theorem completing {fuel quota : ℕ} {t : ThresholdTest R} (ht : t.Limited quota) (hfuel : quota ≤ fuel)
    (id : PropertyId) (s : State R) :
    Ends p L F (SimCheck.completing (.simulating R) id s path fuel t) fun r =>
      r.1.quota? = some quota ∧ r.2.length ≤ quota := by
  refine ite (fun _ => pure ⟨ht.quota_eq, Nat.zero_le _⟩) fun _ => bind (changeSource _) fun _ _ => ?_
  refine bind (observing hpath ht (by omega)) fun r hr => bind (changeSource _) fun _ _ => ?_
  exact pure ⟨hr.1, hr.2.trans (Nat.sub_le _ _)⟩

end Observations

section Tests

variable {u : UntilCheck R (G × Ledger)}

/-- The test of a threshold can be constructed, or its constructor faults as `F` says. -/
def Constructible (p : Params R) (F : Fault R → Prop) (bound : R) : Prop :=
  ∀ q error f, p.SameButBounds q → error = 0 ∨ error = q.nestedErrorBound →
    ThresholdTest.create q.thresholdAlgorithm (Region.around bound q.delta error) q = .error f → F f

/-- **A test is opened with a quota**, which it has not observed if it is not done. -/
theorem openTest {fuel : ℕ} (hafford : p.Affords fuel) {bound : R} (hbound : Constructible p F bound)
    (s : State R) :
    Ends p L F (SimCheck.openTest u bound s : Run R (Session R (G × Ledger) Unit) _) fun t =>
      ∃ quota ≤ fuel, t.Limited quota ∧ (p.thresholdAlgorithm = .fixed → quota = p.fixedSampleSize) := by
  refine verifier_bind fun v hv => ?_
  have hcreate (new : ThresholdTest R) (hnew : ThresholdTest.create v.params.thresholdAlgorithm
      (Region.around bound v.params.delta (u.nestedError v.params)) v.params = .ok new) :
      ∃ quota ≤ fuel, new.Limited quota ∧
        (p.thresholdAlgorithm = .fixed → quota = p.fixedSampleSize) := by
    rw [hv.eq_withBounds] at hnew
    exact Params.Affords.create (p := p.withBounds v.params.bounds) hafford hnew
  refine bind (ofExcept hcreate fun f => hbound v.params _ f hv (u.nestedError_eq_or v.params)) ?_
  rintro new ⟨quota, hle, hnew, hsize⟩
  refine ite (fun _ => ?_) fun _ => pure ⟨quota, hle, hnew, hsize⟩
  cases v.cache.get? ⟨u.id, s.values⟩ with
  | some sample => exact pure ⟨quota, hle, .resume hnew.quota_eq sample, hsize⟩
  | none => exact pure ⟨quota, hle, hnew, hsize⟩

variable (hu : u.Related (relation p L F) u) {sim : Simulator R G}
  (hmodel : ∀ s g f, sim.model s g = .error f → F f) (hlimit : p.maxPathLength = some L)
  (hfuel : L < sim.fuel) (hafford : p.Affords sim.fuel)

include hu hmodel hlimit hfuel hafford

/-- **A test ends if the checks inside its paths do.** -/
theorem postingTest {bound : R} (hbound : Constructible p F bound) (s : State R) :
    Ends p L F (SimCheck.postingTest sim.withLedger (.simulating R) u bound s) fun _ => True := by
  refine bind (openTest hafford hbound s) ?_
  rintro t ⟨quota, hle, ht, hsize⟩
  refine params_bind fun q _ => ?_
  have hpath := simulate hu hmodel hlimit hfuel s (u.nestedError q)
  refine bind (completing hpath ht hle u.id s) ?_
  rintro ⟨t, drawn⟩ ⟨hquota, hdrawn⟩
  -- The test is reported and posted, and the two belong together.
  intro σ _
  refine .inl ⟨t.accepts, { σ with verifier := σ.verifier.closeAndPost u s t drawn }, ?_, trivial, rfl,
    .of_test σ.verifier u s hquota hdrawn hsize⟩
  exact bind_eq_ok.2 ⟨(), _, closeTest_eq u s t σ, rfl⟩

theorem postingThreshold (op : ThresholdOp) {bound : R} (hbound : Constructible p F bound)
    (s : State R) :
    Ends p L F (SimCheck.postingThreshold sim.withLedger (.simulating R) u op bound s)
      fun _ => True := by
  unfold SimCheck.postingThreshold
  cases Property.trivialVerdict? op bound with
  | some verdict => exact pure trivial
  | none => exact nested (postingTest hu hmodel hlimit hfuel hafford hbound s)

end Tests

end Run.Ends

/-! ### Properties -/

section Checks

variable [Distributions R] {p : Params R} {L : ℕ} {F : Fault R → Prop} {sim : Simulator R G}

mutual

/-- **A posted check ends**, or it halts at a fault of the model, of an expression or of a test's
constructor. -/
theorem postingCheck_ends (hmodel : ∀ s g f, sim.model s g = .error f → F f)
    (hlimit : p.maxPathLength = some L) (hfuel : L < sim.fuel) (hafford : p.Affords sim.fuel) :
    ∀ (property : Property R) (s : State R),
      (∀ e ∈ property.expressions, ∀ t f, e.holds t = .error f → F f) →
      (∀ bound ∈ property.thresholdBounds, Ends.Constructible p F bound) →
        Ends p L F (postingCheck sim.withLedger (.simulating R) property s) fun _ => True
  | .expr e, s, he, _ =>
    .ofExcept (fun _ _ => trivial) fun f hf => he e (List.mem_singleton_self e) s f hf
  | .not property, s, he, hb =>
    Ends.congruence.negation (y := postingCheck sim.withLedger (.simulating R) property s)
      (postingCheck_ends hmodel hlimit hfuel hafford property s he hb)
  | .combine c head properties, s, he, hb => by
    obtain ⟨hhead, hrest⟩ := List.forall_mem_append.1 he
    have hoperands := postingOperands_end hmodel hlimit hfuel hafford properties s hrest hb
    rw [postingCheck]
    refine Verdict.Congruence.combine_of_forall Ends.congruence ?_ hoperands c
    refine Option.forall_mem_map.2 fun e he => .ofExcept (fun _ _ => trivial) fun f hf => ?_
    exact hhead e (Option.mem_toList.2 he) s f hf
  | .threshold op bound (.until id lower upper pre post), s, he, hb => by
    obtain ⟨hpre, hpost⟩ := List.forall_mem_append.1 he
    obtain ⟨hbound, hsides⟩ := List.forall_mem_cons.1 hb
    obtain ⟨hpre', hpost'⟩ := List.forall_mem_append.1 hsides
    refine Ends.postingThreshold (.of_sides ?_ ?_) hmodel hlimit hfuel hafford op hbound s
    · exact fun t => postingCheck_ends hmodel hlimit hfuel hafford pre t hpre hpre'
    · exact fun t => postingCheck_ends hmodel hlimit hfuel hafford post t hpost hpost'

/-- So does every operand of a connective. -/
theorem postingOperands_end (hmodel : ∀ s g f, sim.model s g = .error f → F f)
    (hlimit : p.maxPathLength = some L) (hfuel : L < sim.fuel) (hafford : p.Affords sim.fuel) :
    ∀ (properties : List (Property R)) (s : State R),
      (∀ e ∈ Property.expressionsOf properties, ∀ t f, e.holds t = .error f → F f) →
      (∀ bound ∈ Property.thresholdBoundsOf properties, Ends.Constructible p F bound) →
        ∀ o ∈ postingOperands sim.withLedger (.simulating R) properties s,
          Ends p L F o.verdict fun _ => True
  | [], _, _, _, _, ho => (List.not_mem_nil ho).elim
  | property :: properties, s, he, hb, o, ho => by
    obtain ⟨hfirst, hrest⟩ := List.forall_mem_append.1 he
    obtain ⟨hfirst', hrest'⟩ := List.forall_mem_append.1 hb
    rcases List.mem_cons.1 ho with rfl | ho
    · exact postingCheck_ends hmodel hlimit hfuel hafford property s hfirst hfirst'
    · exact postingOperands_end hmodel hlimit hfuel hafford properties s hrest hrest' o ho

end

/-- What a check can come to grief over: the model faults, or an expression of the property, or the
constructor of the test for one of its thresholds, within some error bounds. -/
def Property.Faults (property : Property R) (sim : Simulator R G) (p : Params R) (f : Fault R) : Prop :=
  (∃ s g, sim.model s g = .error f) ∨ (∃ e ∈ property.expressions, ∃ s, e.holds s = .error f) ∨
    ∃ bound ∈ property.thresholdBounds, ∃ q error, p.SameButBounds q ∧
      (error = 0 ∨ error = q.nestedErrorBound) ∧
      ThresholdTest.create q.thresholdAlgorithm (Region.around bound q.delta error) q = .error f

/-- **A verification with a largest length of paths terminates**, if its tests are fixed ones, or single
sampling tests; whatever the model, the generator, the cache and the property are like.  It ends, or it
halts at a fault, with the fuel that one path or one test asks for.  If it ends, every path has taken at
most `L` transitions, those inside tests included; there are no more truncated paths than paths; and the
tests that it has reported are those in its ledger, each of which has drawn no more than its quota. -/
theorem Session.verify_terminates (sim : Simulator R G) (property : Property R) (s : State R)
    (σ : Session R G Unit) (hlimit : σ.verifier.params.maxPathLength = some L)
    (hfuel : L < sim.fuel) (hafford : σ.verifier.params.Affords sim.fuel) :
    (∃ b τ, verify sim (.simulating R) property s σ = .ok (b, τ) ∧
      (∃ lengths : List ℕ, (∀ n ∈ lengths, n ≤ L) ∧
        τ.verifier.stats.pathLength = Sample.ofList (lengths.map fun n : ℕ => (n : R))) ∧
      τ.verifier.stats.truncatedPaths ≤ τ.verifier.stats.pathLength.count ∧
      ∃ τ' events,
        postingVerify sim.withLedger (.simulating R) property s ⟨σ.verifier.withLedger [], ()⟩
          = .ok (b, τ') ∧ τ'.verifier.withoutLedger = τ.verifier ∧
        τ.verifier.events = events ++ σ.verifier.events ∧
        List.Forall₂ (Event.Covers σ.verifier.params) (events.filter Event.isTest) τ'.verifier.ledger) ∨
    ∃ f, verify sim (.simulating R) property s σ = .error (.fault f) ∧
      property.Faults sim σ.verifier.params f := by
  let start : Session R (G × Ledger) Unit :=
    ⟨{ σ.verifier.withLedger [] with stats := ∅, level := 0 }, ()⟩
  have hends := postingCheck_ends (F := property.Faults sim σ.verifier.params)
    (fun s g f hf => .inl ⟨s, g, hf⟩) hlimit hfuel hafford property s
    (fun e he t f hf => .inr (.inl ⟨e, he, t, hf⟩))
    (fun bound hbound q error f hq herror hf => .inr (.inr ⟨bound, hbound, q, error, hq, herror, hf⟩))
    start fun _ => rfl
  -- Without the ledger this is the verification.
  have hverify : (postingCheck sim.withLedger (.simulating R) property s start).map
      (Prod.map id (mapGenerator Prod.fst)) = verify sim (.simulating R) property s σ :=
    postingVerify_lifts sim (.simulating R) s property ⟨σ.verifier.withLedger [], ()⟩
  obtain ⟨b, τ', hτ', -, -, houtlay⟩ | ⟨f, herror, hf⟩ := hends
  · obtain ⟨lengths, hlengths, hpaths, htruncated⟩ := houtlay.paths
    obtain ⟨events, postings, hevents, hledger, hcovers⟩ := houtlay.tests
    have hcount : τ'.verifier.stats.pathLength.count = lengths.length := by
      rw [hpaths, Sample.count_foldl_push, List.length_map]
      exact Nat.zero_add _
    have hposted : τ'.verifier.ledger = postings := hledger.trans (List.append_nil postings)
    rw [hτ'] at hverify
    refine .inl ⟨b, τ'.mapGenerator Prod.fst, hverify.symm, ⟨lengths, hlengths, hpaths⟩, ?_, τ', events,
      hτ', rfl, hevents, hposted ▸ hcovers⟩
    calc τ'.verifier.stats.truncatedPaths ≤ 0 + lengths.length := htruncated
      _ = τ'.verifier.stats.pathLength.count := by rw [hcount, Nat.zero_add]
  · rw [herror] at hverify
    exact .inr ⟨f, hverify.symm, hf⟩

end Checks

/-! ### Paths that never end of themselves -/

namespace Standstill

abbrev distributions : Distributions Float := ⟨fun _ _ _ => 0, fun _ _ => 0⟩

/-- No state is absorbing, and no time passes. -/
def simulator : Simulator Float Unit where
  model s _ := pure (⟨s.values, 0⟩, ())
  fuel := 3

def params : Params Float :=
  { Params.default with
    thresholdAlgorithm := .fixed, fixedSampleSize := 2, maxPathLength := some 2, memoization := true }

def session : Session Float Unit Unit := ⟨⟨params, (), ∅, ∅, 0, []⟩, ()⟩

/-- Most likely there comes a state from which the value `1` will most likely be reached, which it never
is. -/
def property : Property Float :=
  .threshold .atLeast 0.5 (.unbounded ⟨1⟩ (.expr (.constant true))
    (.threshold .atLeast 0.5 (.unbounded ⟨2⟩ (.expr (.constant true)) (.expr (.equals 0 1)))))

/-- The test draws two paths and the tests inside them draw two in all, for they go on from the same
sample; every path is truncated. -/
theorem verify_terminates_standstill :
    let _ := distributions
    session.verifier.params.maxPathLength = some 2 ∧ 2 < simulator.fuel ∧
      session.verifier.params.Affords simulator.fuel ∧
      ∃ τ, Session.verify simulator (.simulating Float) property ⟨[0], 0⟩ session = .ok (false, τ) ∧
        (∃ lengths : List ℕ, (∀ n ∈ lengths, n ≤ 2) ∧
          τ.verifier.stats.pathLength = Sample.ofList (lengths.map fun n : ℕ => (n : Float))) ∧
        τ.verifier.stats.truncatedPaths = 4 ∧ τ.verifier.stats.pathLength.count = 4 := by
  intro _
  have hafford : session.verifier.params.Affords simulator.fuel := show 2 ≤ 3 by decide
  have hrun : ((Session.verify simulator (.simulating Float) property ⟨[0], 0⟩ session).toOption.map
      fun r => (r.1, r.2.verifier.stats.truncatedPaths, r.2.verifier.stats.pathLength.count))
        = some (false, 4, 4) := by decide +kernel
  obtain ⟨τ, hτ, hcounts⟩ := Run.exists_of_map_toOption
    (f := fun σ : Session Float Unit Unit =>
      (σ.verifier.stats.truncatedPaths, σ.verifier.stats.pathLength.count)) hrun
  obtain ⟨htruncated, hcount⟩ := Prod.mk.inj hcounts
  obtain ⟨b, τ₁, hends, hlengths, -⟩ | ⟨f, herror, -⟩ :=
    Session.verify_terminates simulator property ⟨[0], 0⟩ session rfl (by decide) hafford
  · cases hτ.symm.trans hends
    exact ⟨rfl, by decide, hafford, τ, hτ, hlengths, htruncated, hcount⟩
  · cases hτ.symm.trans herror

end Standstill

end SimCheck
