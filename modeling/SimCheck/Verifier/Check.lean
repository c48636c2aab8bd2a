import SimCheck.Verifier.Connective
import SimCheck.Verifier.Walk

/-!
# Checking a property

`check` decides a property in a state: expressions by their value, connectives by dividing the error
bounds, thresholds by a sequential test over simulated paths.  The checks inside a path are decided
in the same way, with observations that are simulated locally.

* `observeUntilDone` feeds a test from a source;
* `runTest` decides a threshold, starting from the cached sample if there is one;
* `check`, `operands` recurse through the property.
-/

namespace SimCheck

variable {R G S : Type} [Scalar R] [Distributions R]

/-- Feeds a test until it is done, at most `fuel` observations. -/
def observeUntilDone (src : SampleSource R S) (path : Run R (Session R G Unit) Bool) :
    (fuel : Nat) → ThresholdTest R → Run R (Session R G S) (ThresholdTest R)
  | 0, t => if t.isDone then return t else throw .outOfFuel
  | fuel + 1, t => do
    if t.isDone then return t
    let b ← Run.draw src path
    observeUntilDone src path fuel (t.push b)

/-- Feeds a test within a run of its source, unless it is done from the start. -/
def completeTest (src : SampleSource R S) (id : PropertyId) (s : State R)
    (path : Run R (Session R G Unit) Bool) (fuel : Nat) (t : ThresholdTest R) :
    Run R (Session R G S) (ThresholdTest R) := do
  if t.isDone then return t
  Run.beginRun src id s
  let t ← observeUntilDone src path fuel t
  Run.endRun src id
  return t

/-- The test of a threshold before its first observation, or with the cached sample. -/
def openTest (u : UntilCheck R G) (bound : R) (s : State R) :
    Run R (Session R G S) (ThresholdTest R) := do
  let v ← Run.verifier
  let region := Region.around bound v.params.delta (u.nestedError v.params)
  let t ← Run.ofExcept (ThresholdTest.create v.params.thresholdAlgorithm region v.params)
  if v.params.memoization then
    match v.cache.get? ⟨u.id, s.values⟩ with
    | some sample => return t.resume sample
    | none => return t
  else return t

/-- Reports a finished test, counts it and keeps its sample. -/
def closeTest (u : UntilCheck R G) (s : State R) (t : ThresholdTest R) :
    Run R (Session R G S) Unit := do
  let v ← Run.verifier
  Run.report (.testFinished v.level u.id s t)
  if v.level = 1 then
    Run.modifyStats fun stats =>
      { stats with sampleSize := stats.sampleSize.push (t.sample.count : R) }
  if v.params.memoization then
    let cache := v.cache.insert ⟨u.id, s.values⟩ t.sample
    Run.modifyVerifier fun v => { v with cache }
    Run.modifyStats fun stats => { stats with cacheSize := stats.cacheSize.push (cache.size : R) }

/-- Decides a threshold by its test. -/
def runTest (sim : Simulator R G) (src : SampleSource R S) (u : UntilCheck R G) (bound : R)
    (s : State R) : Run R (Session R G S) Bool := do
  let t ← openTest u bound s
  let nested := u.nestedError (← Run.params)
  let t ← completeTest src u.id s (simulate sim u s nested) sim.fuel t
  closeTest u s t
  return t.accepts

/-- Decides a threshold, by a test one level deeper unless its verdict is trivial. -/
def checkThreshold (sim : Simulator R G) (src : SampleSource R S) (u : UntilCheck R G)
    (op : ThresholdOp) (bound : R) (s : State R) : Run R (Session R G S) Bool :=
  match Property.trivialVerdict? op bound with
  | some verdict => return verdict
  | none => Run.nested (runTest sim src u bound s)

mutual

/-- Decides a property in a state. -/
def check (sim : Simulator R G) {S : Type} (src : SampleSource R S) :
    Property R → State R → Run R (Session R G S) Bool
  | .expr e, s => Run.ofExcept (e.holds s)
  | .not p, s => Verdict.negation (check sim src p s)
  | .combine c head ps, s =>
    Verdict.combine c (head.map fun e => Run.ofExcept (e.holds s)) (operands sim src ps s)
  | .threshold op bound (.until id lower upper pre post), s =>
    checkThreshold sim src
      { id, lower, upper
        pre := ⟨pre.isProbabilistic, check sim (.simulating R) pre⟩
        post := ⟨post.isProbabilistic, check sim (.simulating R) post⟩ }
      op bound s

/-- The operands of a connective in a state. -/
def operands (sim : Simulator R G) {S : Type} (src : SampleSource R S) :
    List (Property R) → State R → List (Operand (Run R (Session R G S)))
  | [], _ => []
  | p :: ps, s => ⟨p.isProbabilistic, check sim src p s⟩ :: operands sim src ps s

end

/-- A path property with the checks of its sides. -/
def PathProperty.checks (sim : Simulator R G) (path : PathProperty R) : UntilCheck R G where
  id := path.id
  lower := path.lower
  upper := path.upper
  pre := ⟨path.pre.isProbabilistic, check sim (.simulating R) path.pre⟩
  post := ⟨path.post.isProbabilistic, check sim (.simulating R) path.post⟩

end SimCheck
