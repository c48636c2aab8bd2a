import SimCheck.Property
import SimCheck.Verifier.Session

/-!
# Connectives within error bounds

How the verdict on a combination comes from the verdicts on its operands, and how the error bounds
are divided among them.

* `Verdict.negation` swaps the two bounds;
* `Verdict.junction` is a conjunction or a disjunction: operands without thresholds come first, and the rest
  share the bound that the decisive verdict of one of them could break;
* `Verdict.equivalence` is a chain from left to right, each operand with an equal share of the smaller bound
  for both errors.

They work in any monad of computations within error bounds, so that what they do to the bounds can
be studied apart from sampling.
-/

namespace SimCheck

/-- An operand: whether it contains a threshold, and how its verdict is reached. -/
structure Operand (m : Type → Type) where
  probabilistic : Bool
  verdict : m Bool

namespace Verdict

variable {R : Type} {m : Type → Type} [Monad m]

/-- Whether some verdict equals `b`; the first such verdict ends the search. -/
def anyIs (b : Bool) : List (m Bool) → m Bool
  | [] => return false
  | v :: vs => do
    if (← v) == b then return true
    anyIs b vs

/-- The chain of equivalences from a first verdict on. -/
def chain : Bool → List (m Bool) → m Bool
  | b, [] => return b
  | b, v :: vs => do
    let c ← v
    chain (b == c) vs

/-- The chain of equivalences that begins with the first of some verdicts; without any it holds. -/
def chainAll : List (m Bool) → m Bool
  | [] => return true
  | v :: vs => do chain (← v) vs

variable [Scalar R] [Budgeted R m]

/-- The opposite verdict, reached within swapped bounds. -/
def negation (verdict : m Bool) : m Bool := do
  let b ← Budgeted.bounds
  return !(← Budgeted.within b.swap verdict)

/-- A conjunction, if `conjunctive`, or else a disjunction. -/
def junction (conjunctive : Bool) (head : Option (m Bool)) (operands : List (Operand m)) :
    m Bool := do
  -- the verdict of an operand that decides the whole
  let decisive := !conjunctive
  let (tested, free) := operands.partition (·.probabilistic)
  if (← anyIs decisive (head.toList ++ free.map (·.verdict))) then return decisive
  if tested.isEmpty then return !decisive
  let b ← Budgeted.bounds
  let share := if conjunctive then b.shareAlpha tested.length else b.shareBeta tested.length
  let found ← Budgeted.within share (anyIs decisive (tested.map (·.verdict)))
  return if found then decisive else !decisive

/-- A chain of equivalences; an empty one holds. -/
def equivalence (head : Option (m Bool)) (operands : List (Operand m)) : m Bool := do
  let b ← Budgeted.bounds
  let tested := operands.countP (·.probabilistic)
  Budgeted.within (b.shareLeast (max 1 tested)) (chainAll (head.toList ++ operands.map (·.verdict)))

/-- The verdict on a combination of operands. -/
def combine (c : Connective) (head : Option (m Bool)) (operands : List (Operand m)) :
    m Bool :=
  match c with
  | .conjunction => junction true head operands
  | .disjunction => junction false head operands
  | .equivalence => equivalence head operands

end Verdict

end SimCheck
