import SimCheck.Identifier
import SimCheck.State

/-!
# Properties

A `Property` is a Boolean combination of expressions and probability thresholds.  A threshold
compares the probability of a path property with a bound; a path property is a timed until whose
two sides are properties again, so thresholds nest.

* `Property`, `PathProperty`: the trees;
* `Property.threshold?`, `PathProperty.until?`: the constructors that check their numbers;
* `Property.isProbabilistic`: whether a threshold occurs;
* `Property.trivialVerdict?`: thresholds that every probability meets or fails;
* `Property.paths`: every path property of a tree, sorted by its number.
-/

namespace SimCheck

/-- The connectives that combine any number of operands. -/
inductive Connective
  | conjunction
  | disjunction
  /-- The chain of equivalences, from left to right. -/
  | equivalence
  deriving DecidableEq

/-- How a probability is compared with a bound. -/
inductive ThresholdOp
  | atLeast
  | above
  deriving DecidableEq

mutual

/-- A state property. -/
inductive Property (R : Type)
  /-- An expression, evaluated in the state itself. -/
  | expr (e : Expression R)
  | not (p : Property R)
  /-- A connective over an optional expression and a list of properties. -/
  | combine (c : Connective) (head : Option (Expression R)) (operands : List (Property R))
  /-- The probability of a path property, compared with a bound. -/
  | threshold (op : ThresholdOp) (bound : R) (path : PathProperty R)

/-- A timed until: `post` within the window, and `pre` until then. -/
inductive PathProperty (R : Type)
  | until (id : PropertyId) (lower upper : R) (pre post : Property R)

end

namespace PathProperty

variable {R : Type}

/-- The number of the path property. -/
def id : PathProperty R → PropertyId
  | .until id _ _ _ _ => id

/-- The time at which the window opens. -/
def lower : PathProperty R → R
  | .until _ lower _ _ _ => lower

/-- The time at which the window closes. -/
def upper : PathProperty R → R
  | .until _ _ upper _ _ => upper

/-- What must hold until `post` does. -/
def pre : PathProperty R → Property R
  | .until _ _ _ pre _ => pre

/-- What must hold within the window. -/
def post : PathProperty R → Property R
  | .until _ _ _ _ post => post

variable [Scalar R]

/-- A path property with a window; the window must not open before zero nor close before it
opens. -/
def until? (id : PropertyId) (lower upper : R) (pre post : Property R) :
    Except (Fault R) (PathProperty R) :=
  if 0 ≤ lower then
    if lower ≤ upper then .ok (.until id lower upper pre post)
    else .error (.emptyWindow lower upper)
  else .error .negativeMinTime

/-- A path property without a window. -/
def unbounded (id : PropertyId) (pre post : Property R) : PathProperty R :=
  .until id 0 Scalar.infinity pre post

/-- Whether the window closes. -/
def isBounded (p : PathProperty R) : Bool := Scalar.isFinite p.upper

end PathProperty

namespace Property

variable {R : Type}

mutual

/-- Whether a probability threshold occurs outside expressions. -/
def isProbabilistic : Property R → Bool
  | .expr _ => false
  | .not p => p.isProbabilistic
  | .combine _ _ ps => anyProbabilistic ps
  | .threshold .. => true

/-- Whether some property of the list is probabilistic. -/
def anyProbabilistic : List (Property R) → Bool
  | [] => false
  | p :: ps => p.isProbabilistic || anyProbabilistic ps

end

theorem anyProbabilistic_eq_any (ps : List (Property R)) :
    anyProbabilistic ps = ps.any isProbabilistic := by
  induction ps with
  | nil => rfl
  | cons p ps ih => simp [anyProbabilistic, ih]

mutual

/-- The path properties of all thresholds of the tree, each before those inside it. -/
def pathList : Property R → List (PathProperty R)
  | .expr _ => []
  | .not p => pathList p
  | .combine _ _ ps => pathLists ps
  | .threshold _ _ (.until id lower upper pre post) =>
    .until id lower upper pre post :: (pathList pre ++ pathList post)

/-- The path properties of a list of trees, from left to right. -/
def pathLists : List (Property R) → List (PathProperty R)
  | [] => []
  | p :: ps => pathList p ++ pathLists ps

end

/-- Inserts a path property into a list sorted by number; one with the same number is replaced. -/
def insertPath (p : PathProperty R) : List (PathProperty R) → List (PathProperty R)
  | [] => [p]
  | q :: qs =>
    if p.id = q.id then p :: qs
    else if p.id.value < q.id.value then p :: q :: qs
    else q :: insertPath p qs

/-- The path properties of the tree sorted by number.  Of two with the same number the later one
stands. -/
def paths (p : Property R) : List (PathProperty R) :=
  p.pathList.foldl (fun found q => insertPath q found) []

variable [Scalar R]

/-- A threshold; its bound must be a probability. -/
def threshold? (op : ThresholdOp) (bound : R) (path : PathProperty R) :
    Except (Fault R) (Property R) :=
  if 0 ≤ bound ∧ bound ≤ 1 then .ok (.threshold op bound path)
  else .error (.thresholdOutOfRange bound)

/-- The verdict of a threshold that every probability meets or fails. -/
def trivialVerdict? (op : ThresholdOp) (bound : R) : Option Bool :=
  match op with
  | .atLeast => if bound == 0 then some true else none
  | .above => if bound == 1 then some false else none

end Property

/-- Whether a threshold occurs in one of the two sides. -/
def PathProperty.isProbabilistic {R : Type} (p : PathProperty R) : Bool :=
  p.pre.isProbabilistic || p.post.isProbabilistic

end SimCheck
