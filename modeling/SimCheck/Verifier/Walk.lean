import SimCheck.Verifier.Trace

/-!
# Simulating a path

A path from a start state satisfies a timed until if its right side holds in some state occupied
within the window, relative to the start, and its left side holds in every state occupied before
that.  A state contributes, in this order,

* its right side and then its left side, if it is entered when the window is open;
* its left side and then its right side, if it is entered before and still occupied after the window
  opens;
* its left side alone otherwise.

Checks of sides with thresholds are deferred.  When `64`, `128`, `256`, … states have been passed
and deferred checks are pending, they are resolved with half of the error still unspent; the rest
goes to the resolution at the end.

* `UntilCheck` is a path property whose sides can be checked;
* `Walk.advance` passes one state, `Walk.run` goes on until the path has ended;
* `simulate` walks one path, counts it in the statistics and says whether it satisfies the until.
-/

namespace SimCheck

variable {R G : Type}

/-- A side of an until: whether it contains a threshold, and how it is checked in a state. -/
structure SideCheck (R G : Type) where
  probabilistic : Bool
  check : State R → Run R (Session R G Unit) Bool

/-- A path property whose sides can be checked. -/
structure UntilCheck (R G : Type) where
  id : PropertyId
  lower : R
  upper : R
  pre : SideCheck R G
  post : SideCheck R G

namespace UntilCheck

/-- The check of a side. -/
def side (u : UntilCheck R G) : Side → SideCheck R G
  | .pre => u.pre
  | .post => u.post

/-- Whether a side contains a threshold. -/
def isProbabilistic (u : UntilCheck R G) : Bool := u.pre.probabilistic || u.post.probabilistic

/-- The error reserved for the thresholds inside the until. -/
def nestedError [Scalar R] (u : UntilCheck R G) (p : Params R) : R :=
  if u.isProbabilistic then p.nestedErrorBound else 0

/-- What is known about a side in a state. -/
def observe (u : UntilCheck R G) (side : Side) (s : State R) :
    Run R (Session R G Unit) (Step R) := do
  if (u.side side).probabilistic then return ⟨side, .deferred s⟩
  return ⟨side, .known (← (u.side side).check s)⟩

/-- Records a side in a state and says whether that decides the path. -/
def record (u : UntilCheck R G) (side : Side) (s : State R) (t : Trace R) :
    Run R (Session R G Unit) (Trace R × Bool) := do
  let step ← u.observe side s
  return (t.push step, step.isFinal)

end UntilCheck

/-- What a state has contributed: the trace after it, whether a step decides the path, and the
transition out of it if that has been drawn. -/
structure Visit (R : Type) where
  trace : Trace R
  decided : Bool
  drawn : Option (Transition R)

/-- How a path ended. -/
structure PathEnd where
  outcome : Outcome
  length : Nat
  /-- The path has reached the largest length. -/
  cutOff : Bool

/-- A path under way. -/
structure Walk (R : Type) where
  state : State R
  /-- The number of transitions taken. -/
  length : Nat
  /-- The length at which pending checks are resolved. -/
  checkpoint : Nat
  trace : Trace R

/-- A walk has ended, or goes on. -/
inductive Progress (R : Type)
  | ended (path : PathEnd)
  | ongoing (walk : Walk R)

/-- The first length at which pending checks are resolved. -/
def firstCheckpoint : Nat := 64

namespace Walk

/-- A walk at its start. -/
def start (s : State R) (budget : R) : Walk R := ⟨s, 0, firstCheckpoint, .start budget⟩

variable [Scalar R]

/-- Records what a state contributes that is entered `elapsed` after the start. -/
def visit (model : Model R G) (u : UntilCheck R G) (elapsed : R) (s : State R) (t : Trace R) :
    Run R (Session R G Unit) (Visit R) := do
  if u.lower ≤ elapsed then
    let (t, final) ← u.record .post s t
    if final then return ⟨t, true, none⟩
    let (t, final) ← u.record .pre s t
    return ⟨t, final, none⟩
  else
    let (t, final) ← u.record .pre s t
    if final then return ⟨t, true, none⟩
    let drawn ← Run.transition model s
    if u.lower < elapsed + drawn.dwell then
      let (t, final) ← u.record .post s t
      return ⟨t, final, some drawn⟩
    return ⟨t, false, some drawn⟩

/-- Resolves what is pending with all the error that is left. -/
def finish (u : UntilCheck R G) (t : Trace R) (length : Nat) (cutOff : Bool) :
    Run R (Session R G Unit) (Progress R) := do
  let (outcome, _) ← t.resolve (fun side => (u.side side).check) t.budget
  return .ended ⟨outcome, length, cutOff⟩

/-- Resolves what is pending with half of the error that is left. -/
def resolvePrefix (u : UntilCheck R G) (t : Trace R) (length : Nat) :
    Run R (Session R G Unit) (Outcome × Trace R) := do
  let bound := t.budget / 2.0
  Run.report (.resolvingPrefix u.id length bound)
  { t with budget := t.budget - bound }.resolve (fun side => (u.side side).check) bound

/-- Takes the transition out of the current state. -/
def leave (u : UntilCheck R G) (origin : R) (w : Walk R) (t : Transition R) :
    Run R (Session R G Unit) (Progress R) := do
  if t.isAbsorbing then finish u w.trace w.length false
  else
    let next := w.state.successor t
    if u.upper < next.time - origin then finish u w.trace (w.length + 1) false
    else return .ongoing { w with state := next, length := w.length + 1 }

/-- Passes the checkpoint, the cutoff and the transition of a state that has been recorded. -/
def goOn (model : Model R G) (u : UntilCheck R G) (origin : R) (w : Walk R)
    (drawn : Option (Transition R)) : Run R (Session R G Unit) (Progress R) := do
  let p ← Run.params
  if p.maxPathLength.any (· ≤ w.length) then finish u w.trace w.length true
  else
    let t ← match drawn with
      | some t => pure t
      | none => Run.transition model w.state
    leave u origin w t

/-- Passes one state. -/
def advance (model : Model R G) (u : UntilCheck R G) (origin : R) (w : Walk R) :
    Run R (Session R G Unit) (Progress R) := do
  let v ← visit model u (w.state.time - origin) w.state w.trace
  if v.decided then finish u v.trace w.length false
  else if w.checkpoint ≤ w.length && v.trace.hasDeferred then
    let (outcome, t) ← resolvePrefix u v.trace w.length
    match outcome with
    | .open => goOn model u origin { w with checkpoint := 2 * w.checkpoint, trace := t } v.drawn
    | decided => return .ended ⟨decided, w.length, false⟩
  else goOn model u origin { w with trace := v.trace } v.drawn

/-- Passes states until the path has ended, at most `fuel` of them. -/
def run (model : Model R G) (u : UntilCheck R G) (origin : R) :
    (fuel : Nat) → Walk R → Run R (Session R G Unit) PathEnd
  | 0, _ => throw .outOfFuel
  | fuel + 1, w => do
    match ← advance model u origin w with
    | .ended path => return path
    | .ongoing w => run model u origin fuel w

end Walk

/-- What paths are simulated with. -/
structure Simulator (R G : Type) where
  model : Model R G
  /-- How often a loop whose end depends on chance is gone through at most. -/
  fuel : Nat

/-- Simulates one path and says whether it satisfies the until.  A path that is cut off before a
step decides it does not. -/
def simulate [Scalar R] (sim : Simulator R G) (u : UntilCheck R G) (s : State R) (budget : R) :
    Run R (Session R G Unit) Bool := do
  let path ← Walk.run sim.model u s.time sim.fuel (.start s budget)
  Run.modifyStats fun stats => { stats with pathLength := stats.pathLength.push (path.length : R) }
  if path.cutOff && path.outcome == .open then
    Run.modifyStats fun stats => { stats with truncatedPaths := stats.truncatedPaths + 1 }
  return path.outcome == .satisfied

end SimCheck
