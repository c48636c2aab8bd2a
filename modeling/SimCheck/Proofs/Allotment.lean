import SimCheck.Proofs.Lift
import SimCheck.Proofs.Scope

/-!
# The bounds that tests are given

A check that keeps a log of allotments notes, for every threshold that it tests at whatever depth, the
path property, the state and the error bounds in force when the test begins.  The log is carried beside
the generator, where nothing reads it, so that without it the check is the one that keeps none.

* `Allotment`, `Run.allot`: what is noted;
* `allottedCheck`: checks whose tests are noted;
* `allottedCheck_lifts`: without the log they are the checks themselves.
-/

namespace SimCheck

open Run (Keeps)

variable {R G S : Type}

/-- The bounds that a test of a path property from a state has been given. -/
structure Allotment (R : Type) where
  property : PropertyId
  state : State R
  bounds : ErrorBounds R

/-- What tests have been given, the latest one first. -/
abbrev Allotments (R : Type) := List (Allotment R)

/-- What the tests of a session have been given. -/
def Session.allotments (σ : Session R (G × Allotments R) S) : Allotments R := σ.verifier.generator.2

/-- Notes the bounds in force for a test. -/
def Run.allot (id : PropertyId) (s : State R) : Run R (Session R (G × Allotments R) S) Unit :=
  modifyVerifier fun v =>
    { v with generator := (v.generator.1, ⟨id, s, v.params.bounds⟩ :: v.generator.2) }

section

variable [Scalar R] [Distributions R]

/-- Decides a threshold, by a test whose bounds are noted unless the verdict is trivial. -/
def allottedThreshold (sim : Simulator R (G × Allotments R)) (src : SampleSource R S)
    (u : UntilCheck R (G × Allotments R)) (op : ThresholdOp) (bound : R) (s : State R) :
    Run R (Session R (G × Allotments R) S) Bool :=
  match Property.trivialVerdict? op bound with
  | some verdict => return verdict
  | none => Run.nested do
    Run.allot u.id s
    runTest sim src u bound s

mutual

/-- Decides a property in a state, by tests whose bounds are noted. -/
def allottedCheck (sim : Simulator R (G × Allotments R)) {S : Type} (src : SampleSource R S) :
    Property R → State R → Run R (Session R (G × Allotments R) S) Bool
  | .expr e, s => Run.ofExcept (e.holds s)
  | .not p, s => Verdict.negation (allottedCheck sim src p s)
  | .combine c head ps, s =>
    Verdict.combine c (head.map fun e => Run.ofExcept (e.holds s)) (allottedOperands sim src ps s)
  | .threshold op bound (.until id lower upper pre post), s =>
    allottedThreshold sim src
      { id, lower, upper
        pre := ⟨pre.isProbabilistic, allottedCheck sim (.simulating R) pre⟩
        post := ⟨post.isProbabilistic, allottedCheck sim (.simulating R) post⟩ }
      op bound s

/-- The operands of a connective in a state, by tests whose bounds are noted. -/
def allottedOperands (sim : Simulator R (G × Allotments R)) {S : Type} (src : SampleSource R S) :
    List (Property R) → State R → List (Operand (Run R (Session R (G × Allotments R) S)))
  | [], _ => []
  | p :: ps, s => ⟨p.isProbabilistic, allottedCheck sim src p s⟩ :: allottedOperands sim src ps s

end

/-! ### Without the log -/

omit [Scalar R] [Distributions R] in
/-- What is noted is no step of the run below. -/
theorem Lifts.allot_bind {α : Type} {id : PropertyId} {s : State R}
    {x : Run R (Session R (G × Allotments R) S) α} {y : Run R (Session R G S) α}
    (hx : Lifts Prod.fst x y) : Lifts Prod.fst (Run.allot id s >>= fun _ => x) y := by
  intro σ
  exact hx { σ with verifier.generator := _ }

theorem allottedThreshold_lifts {u' : UntilCheck R (G × Allotments R)} {u : UntilCheck R G}
    (hu : u'.Related (fun _ _ => Lifts Prod.fst) u) (sim : Simulator R G) (src : SampleSource R S)
    (op : ThresholdOp) (bound : R) (s : State R) :
    Lifts Prod.fst (allottedThreshold (sim.carrying (Allotments R)) src u' op bound s)
      (checkThreshold sim src u op bound s) := by
  unfold allottedThreshold checkThreshold
  cases Property.trivialVerdict? op bound with
  | some verdict => exact .pure verdict
  | none =>
    exact (Lifts.allot_bind (.runTest hu sim.model.carrying_lifts sim.fuel src bound s)).nested

variable (sim : Simulator R G)

mutual

/-- **Without its log a check whose tests are noted is the check.** -/
theorem allottedCheck_lifts {S : Type} (src : SampleSource R S) :
    ∀ (p : Property R) (s : State R),
      Lifts Prod.fst (allottedCheck (sim.carrying (Allotments R)) src p s) (check sim src p s)
  | .expr e, s => .ofExcept _
  | .not p, s =>
    ((Lifts.congruence sim.model.carrying_lifts).verdict S).negation (allottedCheck_lifts src p s)
  | .combine c head ps, s => by
    refine ((Lifts.congruence sim.model.carrying_lifts).verdict S).combine ?_
      (allottedOperands_lifts src ps s) c
    cases head with
    | none => exact .none
    | some e => exact .some (.ofExcept _)
  | .threshold op bound (.until id lower upper pre post), s => by
    refine allottedThreshold_lifts (.of_sides ?_ ?_) sim src op bound s
    · exact allottedCheck_lifts (.simulating R) pre
    · exact allottedCheck_lifts (.simulating R) post

/-- So are the operands of a connective. -/
theorem allottedOperands_lifts {S : Type} (src : SampleSource R S) :
    ∀ (ps : List (Property R)) (s : State R),
      List.Forall₂ (Operand.Related fun _ => Lifts Prod.fst)
        (allottedOperands (sim.carrying (Allotments R)) src ps s) (operands sim src ps s)
  | [], _ => .nil
  | p :: ps, s => .cons ⟨rfl, allottedCheck_lifts src p s⟩ (allottedOperands_lifts src ps s)

end

end

theorem allottedCheck_keeps_scope [Scalar R] [Distributions R] (sim : Simulator R G)
    (src : SampleSource R S) (p : Property R) (s : State R) :
    Keeps Session.scope (allottedCheck (sim.carrying (Allotments R)) src p s) :=
  (allottedCheck_lifts sim src p s).keeps (fun _ => rfl) (check_keeps_scope sim src p s)

end SimCheck
