import SimCheck.Verifier.Session

/-!
# Traces of a path

The states of a path contribute steps, in path order: the left side of the until must hold, or its
right side may hold.  A side without thresholds is known at once; one with thresholds is deferred.

* `Finding`, `Step`: what is known about a side in a state;
* `Trace` holds the steps that are still pending, the verdicts on the left side that have been
  reached, and the error that has not been spent.  A known step that leaves the path open is not
  kept, since it can neither decide the path nor cost a check;
* `Trace.checkCount` is the number of checks that resolving the pending steps can cost;
* `Trace.resolve` goes through the pending steps in order and reports the outcome.
-/

namespace SimCheck

/-- The two sides of an until. -/
inductive Side
  | pre
  | post
  deriving DecidableEq

/-- What is known about a side in a state. -/
inductive Finding (R : Type)
  | known (holds : Bool)
  /-- To be checked from this state. -/
  | deferred (state : State R)

/-- A side of the until in a state of the path. -/
structure Step (R : Type) where
  side : Side
  finding : Finding R

/-- The outcome of a path as far as its steps go. -/
inductive Outcome
  | satisfied
  | violated
  /-- No step decides the path. -/
  | open
  deriving DecidableEq

/-- The outcome that a verdict on a side brings about. -/
def Side.outcome : Side → Bool → Outcome
  | .pre, false => .violated
  | .post, true => .satisfied
  | _, _ => .open

namespace Step

variable {R : Type}

/-- The outcome of the step, if it is known. -/
def outcome (s : Step R) : Outcome :=
  match s.finding with
  | .known holds => s.side.outcome holds
  | .deferred _ => .open

/-- Whether the step decides the path without a check. -/
def isFinal (s : Step R) : Bool := s.outcome != .open

/-- Whether the step waits for a check. -/
def isDeferred (s : Step R) : Bool :=
  match s.finding with
  | .known _ => false
  | .deferred _ => true

end Step

/-- The steps of a path that matter, and what resolving them has cost. -/
structure Trace (R : Type) where
  /-- The steps not resolved yet, the latest first. -/
  pending : List (Step R)
  /-- The verdicts on the left side, by values. -/
  preVerdicts : List (Valuation × Bool)
  /-- The error not spent yet. -/
  budget : R

namespace Trace

variable {R : Type}

/-- The trace of a path at its start. -/
def start (budget : R) : Trace R := ⟨[], [], budget⟩

/-- Records a step. -/
def push (t : Trace R) (s : Step R) : Trace R :=
  if s.isFinal || s.isDeferred then { t with pending := s :: t.pending } else t

/-- Whether a pending step waits for a check. -/
def hasDeferred (t : Trace R) : Bool := t.pending.any Step.isDeferred

/-- The values of the states from which a check of the left side is pending for the first time. -/
def newPreValues (t : Trace R) : List Valuation :=
  (t.pending.filterMap fun s =>
    match s with
    | ⟨.pre, .deferred state⟩ =>
      if (t.preVerdicts.lookup state.values).isSome then none else some state.values
    | _ => none).eraseDups

/-- The number of pending checks of the right side. -/
def deferredPosts (t : Trace R) : Nat :=
  t.pending.countP fun s =>
    match s with
    | ⟨.post, .deferred _⟩ => true
    | _ => false

/-- The number of checks that resolving the pending steps can cost. -/
def checkCount (t : Trace R) : Nat := t.newPreValues.length + t.deferredPosts

variable {G : Type}

/-- The verdict on the side of a step.  The left side is checked once for each valuation. -/
def settle (check : Side → State R → Run R (Session R G Unit) Bool) (step : Step R)
    (seen : List (Valuation × Bool)) :
    Run R (Session R G Unit) (Bool × List (Valuation × Bool)) := do
  match step.side, step.finding with
  | _, .known holds => return (holds, seen)
  | .post, .deferred state => return (← check .post state, seen)
  | .pre, .deferred state =>
    match seen.lookup state.values with
    | some holds => return (holds, seen)
    | none =>
      let holds ← check .pre state
      return (holds, (state.values, holds) :: seen)

/-- Goes through steps in path order until one decides. -/
def replay (check : Side → State R → Run R (Session R G Unit) Bool) :
    List (Step R) → List (Valuation × Bool) →
      Run R (Session R G Unit) (Outcome × List (Valuation × Bool))
  | [], seen => return (.open, seen)
  | step :: steps, seen => do
    let (holds, seen) ← settle check step seen
    match step.side.outcome holds with
    | .open => replay check steps seen
    | decided => return (decided, seen)

variable [Scalar R]

/-- Resolves the pending steps; `bound` is divided evenly among the checks they can cost. -/
def resolve (check : Side → State R → Run R (Session R G Unit) Bool) (t : Trace R) (bound : R) :
    Run R (Session R G Unit) (Outcome × Trace R) := do
  let share := bound / ((max 1 t.checkCount : Nat) : R)
  let (outcome, seen) ← Run.withinBounds (.both share) (replay check t.pending.reverse t.preVerdicts)
  return (outcome, { t with pending := [], preVerdicts := seen })

end Trace

end SimCheck
