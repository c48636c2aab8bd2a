import SimCheck.Proofs.Memo.Calls

/-!
# Calls with other constructors

A verifier constructs a test for every threshold it evaluates, an estimator for every sequential
estimate, and it sizes the sample of every other estimate.  The same calls can be made with other
constructors in the place of these.  Two constructors that differ only where arguments are not admitted
tell whether such arguments occur.

* `Constructors`, `Constructors.own`: constructors, and those of the verifier;
* `Constructors.check`, `Constructors.perform`: checks and calls with other constructors;
* `Constructors.check_of_free`: a check without thresholds constructs nothing;
* `Constructors.perform_own`: with its own constructors the calls are those of the verifier.
-/

namespace SimCheck

/-- What constructs tests and estimators and sizes samples. -/
structure Constructors (R : Type) where
  test : ThresholdAlgorithm → Region R → Params R → Except (Fault R) (ThresholdTest R)
  interval (delta alpha : R) : Except (Fault R) (IntervalEstimate R)
  size (delta alpha : R) : Except (Fault R) ℕ

namespace Constructors

variable {R G S : Type} [Scalar R] [Distributions R]

/-- The constructors of the verifier. -/
def own : Constructors R := ⟨ThresholdTest.create, IntervalEstimate.create, chernoffSize⟩

/-! ### Checks -/

/-- The test of a threshold before its first observation, or with the cached sample. -/
def openTest (k : Constructors R) (u : UntilCheck R G) (bound : R) (s : State R) :
    Run R (Session R G S) (ThresholdTest R) := do
  let v ← Run.verifier
  let region := Region.around bound v.params.delta (u.nestedError v.params)
  let t ← Run.ofExcept (k.test v.params.thresholdAlgorithm region v.params)
  return t.resumeFrom v ⟨u.id, s.values⟩

/-- Decides a threshold by its test. -/
def runTest (k : Constructors R) (sim : Simulator R G) (src : SampleSource R S) (u : UntilCheck R G)
    (bound : R) (s : State R) : Run R (Session R G S) Bool := do
  let t ← k.openTest u bound s
  let nested := u.nestedError (← Run.params)
  let t ← completeTest src u.id s (simulate sim u s nested) sim.fuel t
  closeTest u s t
  return t.accepts

/-- Decides a threshold, by a test unless its verdict is trivial. -/
def checkThreshold (k : Constructors R) (sim : Simulator R G) (src : SampleSource R S)
    (u : UntilCheck R G) (op : ThresholdOp) (bound : R) (s : State R) :
    Run R (Session R G S) Bool :=
  match Property.trivialVerdict? op bound with
  | some verdict => return verdict
  | none => Run.nested (k.runTest sim src u bound s)

mutual

/-- Decides a property in a state. -/
def check (k : Constructors R) (sim : Simulator R G) {S : Type} (src : SampleSource R S) :
    Property R → State R → Run R (Session R G S) Bool
  | .expr e, s => Run.ofExcept (e.holds s)
  | .not p, s => Verdict.negation (check k sim src p s)
  | .combine c head ps, s =>
    Verdict.combine c (head.map fun e => Run.ofExcept (e.holds s)) (operands k sim src ps s)
  | .threshold op bound (.until id lower upper pre post), s =>
    k.checkThreshold sim src
      { id, lower, upper
        pre := ⟨pre.isProbabilistic, check k sim (.simulating R) pre⟩
        post := ⟨post.isProbabilistic, check k sim (.simulating R) post⟩ }
      op bound s

/-- The operands of a connective in a state. -/
def operands (k : Constructors R) (sim : Simulator R G) {S : Type} (src : SampleSource R S) :
    List (Property R) → State R → List (Operand (Run R (Session R G S)))
  | [], _ => []
  | p :: ps, s => ⟨p.isProbabilistic, check k sim src p s⟩ :: operands k sim src ps s

end

/-- A path property with the checks of its sides. -/
def checks (k : Constructors R) (sim : Simulator R G) (path : PathProperty R) : UntilCheck R G where
  id := path.id
  lower := path.lower
  upper := path.upper
  pre := ⟨path.pre.isProbabilistic, k.check sim (.simulating R) path.pre⟩
  post := ⟨path.post.isProbabilistic, k.check sim (.simulating R) path.post⟩

mutual

/-- A check without thresholds constructs nothing. -/
theorem check_of_free (k : Constructors R) (sim : Simulator R G) {S : Type} (src : SampleSource R S) :
    ∀ (p : Property R) (s : State R), p.isProbabilistic = false →
      k.check sim src p s = SimCheck.check sim src p s
  | .expr e, s, _ => by rw [check, SimCheck.check]
  | .not p, s, h => by
    rw [Property.isProbabilistic] at h
    rw [check, SimCheck.check, check_of_free k sim src p s h]
  | .combine c head ps, s, h => by
    rw [Property.isProbabilistic] at h
    rw [check, SimCheck.check, operands_of_free k sim src ps s h]
  | .threshold .., _, h => by cases h

/-- Nor do operands without thresholds. -/
theorem operands_of_free (k : Constructors R) (sim : Simulator R G) {S : Type}
    (src : SampleSource R S) :
    ∀ (ps : List (Property R)) (s : State R), Property.anyProbabilistic ps = false →
      k.operands sim src ps s = SimCheck.operands sim src ps s
  | [], _, _ => by rw [operands, SimCheck.operands]
  | p :: ps, s, h => by
    rw [Property.anyProbabilistic, Bool.or_eq_false_iff] at h
    rw [operands, SimCheck.operands, check_of_free k sim src p s h.1,
      operands_of_free k sim src ps s h.2]

end

/-! ### Queries -/

/-- Decides a property in a state. -/
def verify (k : Constructors R) (sim : Simulator R G) (src : SampleSource R S) (p : Property R)
    (s : State R) : Run R (Session R G S) Bool := do
  Run.modifyVerifier fun v => { v with stats := ∅, level := 0 }
  k.check sim src p s

/-- The estimate by the configured algorithm. -/
def runEstimate (k : Constructors R) (sim : Simulator R G) (src : SampleSource R S) (p : Params R)
    (path : Run R (Session R G Unit) Bool) : Run R (Session R G S) (Estimate R) := do
  match p.estimationAlgorithm with
  | .chowRobbins =>
    let e ← Run.ofExcept (k.interval p.delta p.alpha)
    let e ← Session.estimateUntilDone src path sim.fuel e
    Run.report (.estimateFinished e)
    return ⟨e.mean, e.delta, e.sample.count⟩
  | .chernoff =>
    let size ← Run.ofExcept (k.size p.delta p.alpha)
    let sample ← Session.drawSample src path size ∅
    return ⟨sample.mean, p.delta, size⟩

/-- Estimates the probability that a path from a state satisfies a path property. -/
def estimate (k : Constructors R) (sim : Simulator R G) (src : SampleSource R S)
    (path : PathProperty R) (s : State R) :
    Run R (Session R G S) (Except (QueryError R) (Estimate R)) := do
  let p ← Run.params
  if p.delta ≤ 0 then return .error (.estimationWithoutDelta p.delta)
  let u := k.checks sim path
  Run.modifyVerifier fun v => { v with stats := ∅, level := 1 }
  Run.beginRun src u.id s
  let e ← k.runEstimate sim src p (simulate sim u s (u.nestedError p))
  Run.endRun src u.id
  Run.modifyVerifier fun v => { v with level := 0 }
  Run.modifyStats fun stats =>
    { stats with sampleSize := stats.sampleSize.push (e.sampleSize : R) }
  return .ok e

/-- Simulates one path and says whether it satisfies the path property. -/
def samplePath (k : Constructors R) (sim : Simulator R G) (path : PathProperty R) (s : State R) :
    Run R (Session R G S) Bool := do
  let u := k.checks sim path
  let nested := u.nestedError (← Run.params)
  Run.nested (Run.locally (simulate sim u s nested))

/-- The verifier after a call. -/
def perform (k : Constructors R) (sim : Simulator R G) (v : Verifier R G) :
    Call R → Except (Halt R) (Verifier R G)
  | .verify src source p s => v.after source (k.verify sim src p s)
  | .estimate src source path s => v.after source (k.estimate sim src path s)
  | .samplePath path s => v.after () (k.samplePath sim path s)
  | .release id => .ok (v.release id)
  | .clearCache => .ok v.clearCache

/-! ### The constructors of the verifier -/

section Own

variable (sim : Simulator R G)

theorem openTest_own (u : UntilCheck R G) (bound : R) (s : State R) :
    (own.openTest u bound s : Run R (Session R G S) (ThresholdTest R))
      = SimCheck.openTest u bound s := by
  refine bind_congr fun v => bind_congr fun t => ?_
  unfold ThresholdTest.resumeFrom
  cases v.params.memoization with
  | false => rfl
  | true => cases v.cache.get? ⟨u.id, s.values⟩ <;> rfl

theorem checkThreshold_own (src : SampleSource R S) (u : UntilCheck R G) (op : ThresholdOp) (bound : R)
    (s : State R) :
    own.checkThreshold sim src u op bound s = SimCheck.checkThreshold sim src u op bound s := by
  unfold checkThreshold SimCheck.checkThreshold
  cases Property.trivialVerdict? op bound with
  | some verdict => rfl
  | none =>
    rw [runTest, openTest_own]
    rfl

mutual

theorem check_own {S : Type} (src : SampleSource R S) : ∀ (p : Property R) (s : State R),
    own.check sim src p s = SimCheck.check sim src p s
  | .expr e, s => by rw [check, SimCheck.check]
  | .not p, s => by rw [check, SimCheck.check, check_own src p s]
  | .combine c head ps, s => by rw [check, SimCheck.check, operands_own src ps s]
  | .threshold op bound (.until id lower upper pre post), s => by
    have hpre := funext (check_own (.simulating R) pre)
    have hpost := funext (check_own (.simulating R) post)
    rw [check, SimCheck.check, checkThreshold_own, hpre, hpost]

theorem operands_own {S : Type} (src : SampleSource R S) : ∀ (ps : List (Property R)) (s : State R),
    own.operands sim src ps s = SimCheck.operands sim src ps s
  | [], _ => by rw [operands, SimCheck.operands]
  | p :: ps, s => by rw [operands, SimCheck.operands, check_own src p s, operands_own src ps s]

end

theorem checks_own (path : PathProperty R) : own.checks sim path = path.checks sim := by
  have hcheck (p : Property R) :
      own.check sim (.simulating R) p = SimCheck.check sim (.simulating R) p :=
    funext (check_own sim (.simulating R) p)
  rw [checks, PathProperty.checks, hcheck, hcheck]

/-- With the constructors of the verifier the calls are its calls. -/
theorem perform_own (v : Verifier R G) (c : Call R) : own.perform sim v c = c.perform sim v := by
  cases c with
  | verify src source p s =>
    rw [perform, Call.perform, verify, Session.verify, check_own]
  | estimate src source path s =>
    have hrun (p : Params R) (x : Run R (Session R G Unit) Bool) :
        own.runEstimate sim src p x = Session.runEstimate sim src p x := rfl
    simp only [perform, Call.perform, estimate, Session.estimate, checks_own, hrun]
  | samplePath path s =>
    rw [perform, Call.perform, samplePath, Session.samplePath, checks_own]
  | release id => rfl
  | clearCache => rfl

end Own

end Constructors

end SimCheck
