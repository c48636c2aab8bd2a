import SimCheck.Proofs.Scope

/-!
# The Boolean layer of a property

Above its thresholds a property is a Boolean formula.  This module takes the formula apart from
the way its leaves are decided.

* `Site` names a place in a tree;
* `Leaves` says how the expressions and the non-trivial thresholds of a tree are decided, in any
  monad of computations within error bounds, and `Property.decide` is the verdict on the tree;
* `Property.truth` is the truth value of the formula under an assignment of truth values to its
  non-trivial thresholds;
* `Verdict.Congruence.decide`: a relation between leaves that connectives respect is one between verdicts;
* `check_eq_decide`: `check` is `Property.decide` with a sequential test for every threshold.
-/

namespace SimCheck

/-- The way from the root of a tree to one of its nodes: numbers of operands, the last first. -/
abbrev Site := List Nat

/-- How the leaves of a tree are decided: its expressions, and its thresholds unless they are
trivial. -/
structure Leaves (R : Type) (m : Type → Type) where
  expression : Expression R → m Bool
  test : Site → R → PathProperty R → m Bool

/-- Whether an expression holds; one that faults does not. -/
def Expression.isTrue {R : Type} (e : Expression R) (s : State R) : Bool :=
  match e.holds s with
  | .ok b => b
  | .error _ => false

/-- The chain of equivalences from left to right; an empty one is true. -/
def equivalences : List Bool → Bool
  | [] => true
  | b :: bs => bs.foldl (· == ·) b

/-- The truth value of a combination of formulas. -/
def Connective.truth : Connective → List Bool → Bool
  | .conjunction, bs => bs.all id
  | .disjunction, bs => bs.any id
  | .equivalence, bs => equivalences bs

/-- A junction searches for a false operand, or for a true one. -/
theorem Connective.truth_eq_ite (bs : List Bool) :
    Connective.truth .conjunction bs = (if bs.any (· == !true) then !true else true) ∧
      Connective.truth .disjunction bs = (if bs.any (· == !false) then !false else false) := by
  induction bs with
  | nil => exact ⟨rfl, rfl⟩
  | cons b bs ih =>
    simp only [Connective.truth, List.all_cons, List.any_cons] at ih ⊢
    rw [ih.1, ih.2]
    cases b <;> simp

namespace Property

variable {R : Type} [Scalar R] {m : Type → Type} [Monad m] [Budgeted R m]

mutual

/-- The verdict on the tree at a site. -/
def decide (l : Leaves R m) : Site → Property R → m Bool
  | _, .expr e => l.expression e
  | site, .not p => Verdict.negation (decide l (0 :: site) p)
  | site, .combine c head ps => Verdict.combine c (head.map l.expression) (decideAll l site 0 ps)
  | site, .threshold op bound path =>
    match trivialVerdict? op bound with
    | some verdict => return verdict
    | none => l.test site bound path

/-- The operands of a connective at a site, from number `i` on. -/
def decideAll (l : Leaves R m) (site : Site) : Nat → List (Property R) → List (Operand m)
  | _, [] => []
  | i, p :: ps => ⟨p.isProbabilistic, decide l (i :: site) p⟩ :: decideAll l site (i + 1) ps

end

mutual

/-- The truth value of the tree at a site, when `t` assigns truth values to thresholds. -/
def truth (s : State R) (t : Site → Bool) : Site → Property R → Bool
  | _, .expr e => e.isTrue s
  | site, .not p => !truth s t (0 :: site) p
  | site, .combine c head ps =>
    c.truth ((head.map fun e => e.isTrue s).toList ++ truths s t site 0 ps)
  | site, .threshold op bound _ => (trivialVerdict? op bound).getD (t site)

/-- The truth values of the operands of a connective at a site, from number `i` on. -/
def truths (s : State R) (t : Site → Bool) (site : Site) : Nat → List (Property R) → List Bool
  | _, [] => []
  | i, p :: ps => truth s t (i :: site) p :: truths s t site (i + 1) ps

end

end Property

/-! ### Related leaves -/

section Related

variable {R : Type} [Scalar R] {m' m : Type → Type} [Monad m'] [Monad m] [Budgeted R m']
  [Budgeted R m] {P : ∀ α : Type, m' α → m α → Prop} {l' : Leaves R m'} {l : Leaves R m}

mutual

/-- **Verdicts are related if their leaves are.** -/
theorem Verdict.Congruence.decide (h : Verdict.Congruence P)
    (hexpression : ∀ e, P Bool (l'.expression e) (l.expression e))
    (htest : ∀ site bound path, P Bool (l'.test site bound path) (l.test site bound path)) :
    ∀ (site : Site) (p : Property R), P Bool (p.decide l' site) (p.decide l site)
  | _, .expr e => hexpression e
  | site, .not p => h.negation (h.decide hexpression htest (0 :: site) p)
  | site, .combine c head ps => by
    refine h.combine ?_ (h.decideAll hexpression htest site 0 ps) c
    cases head with
    | none => exact .none
    | some e => exact .some (hexpression e)
  | site, .threshold op bound path => by
    rw [Property.decide, Property.decide]
    cases Property.trivialVerdict? op bound with
    | some verdict => exact h.pure verdict
    | none => exact htest site bound path

/-- So are the operands of a connective. -/
theorem Verdict.Congruence.decideAll (h : Verdict.Congruence P)
    (hexpression : ∀ e, P Bool (l'.expression e) (l.expression e))
    (htest : ∀ site bound path, P Bool (l'.test site bound path) (l.test site bound path))
    (site : Site) : ∀ (i : Nat) (ps : List (Property R)),
      List.Forall₂ (Operand.Related P) (Property.decideAll l' site i ps)
        (Property.decideAll l site i ps)
  | _, [] => .nil
  | i, p :: ps => .cons ⟨rfl, h.decide hexpression htest (i :: site) p⟩
    (h.decideAll hexpression htest site (i + 1) ps)

end

end Related

/-! ### The tests of `check` -/

variable {R G S : Type} [Scalar R] [Distributions R]

/-- The test of a threshold, one level deeper. -/
def thresholdTest (sim : Simulator R G) (src : SampleSource R S) (s : State R) (bound : R)
    (path : PathProperty R) : Run R (Session R G S) Bool :=
  Run.nested (runTest sim src (path.checks sim) bound s)

theorem thresholdTest_keeps_scope (sim : Simulator R G) (src : SampleSource R S) (s : State R)
    (bound : R) (path : PathProperty R) :
    Run.Keeps Session.scope (thresholdTest sim src s bound path) :=
  Run.nested_keeps_scope (runTest_keeps_scope (path.checks_keepsScope sim) sim src bound s)

/-- Expressions are evaluated in a state, and thresholds are tested from it. -/
def Leaves.tested (sim : Simulator R G) (src : SampleSource R S) (s : State R) :
    Leaves R (Run R (Session R G S)) where
  expression e := Run.ofExcept (e.holds s)
  test _ := thresholdTest sim src s

mutual

/-- **A check is the verdict on the Boolean layer with tests for its thresholds.** -/
theorem check_eq_decide (sim : Simulator R G) (src : SampleSource R S) (s : State R) :
    ∀ (site : Site) (p : Property R),
      check sim src p s = p.decide (Leaves.tested sim src s) site
  | _, .expr e => by rw [check, Property.decide]; rfl
  | site, .not p => by
    rw [check, Property.decide, check_eq_decide sim src s (0 :: site) p]
  | site, .combine c head ps => by
    rw [check, Property.decide, operands_eq_decideAll sim src s site 0 ps]
    rfl
  | site, .threshold op bound (.until id lower upper pre post) => by
    rw [check, Property.decide, checkThreshold]
    rfl

/-- The operands of a connective are the verdicts on their Boolean layers. -/
theorem operands_eq_decideAll (sim : Simulator R G) (src : SampleSource R S) (s : State R)
    (site : Site) : ∀ (i : Nat) (ps : List (Property R)),
      operands sim src ps s = Property.decideAll (Leaves.tested sim src s) site i ps
  | _, [] => by rw [operands, Property.decideAll]
  | i, p :: ps => by
    rw [operands, Property.decideAll, check_eq_decide sim src s (i :: site) p,
      operands_eq_decideAll sim src s site (i + 1) ps]

end

end SimCheck
