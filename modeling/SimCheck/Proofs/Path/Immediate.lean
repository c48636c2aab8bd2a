import SimCheck.Proofs.Run
import SimCheck.Verifier.Check

/-!
# Immediate evaluation of a path

The same path without deferral: both sides of the until are checked in each state as they come, with
thresholds or not, and the first check that decides ends the path.  There are no pending steps, no
checkpoints and no verdicts to look up.

* `Immediate.visit`, `Immediate.advance`, `Immediate.run`: one state, the way to the next, the path;
* `Immediate.run_mono`: a path that ends does so with any larger fuel, and with the same outcome.
-/

namespace SimCheck

variable {R G : Type}

/-- Checks a side in a state and says what the verdict brings about. -/
def UntilCheck.look (u : UntilCheck R G) (side : Side) (s : State R) :
    Run R (Session R G Unit) Outcome := do
  return side.outcome (← (u.side side).check s)

namespace Immediate

/-- What a state has decided, and the transition out of it if that has been drawn. -/
abbrev Verdict (R : Type) := Outcome × Option (Transition R)

/-- Checks a side in a state and, if that leaves the path open, goes on. -/
def lookThen (u : UntilCheck R G) (side : Side) (s : State R)
    (rest : Run R (Session R G Unit) (Verdict R)) : Run R (Session R G Unit) (Verdict R) := do
  match ← u.look side s with
  | .open => rest
  | decided => return (decided, none)

variable [Scalar R]

/-- Passes a state that is entered `elapsed` after the start. -/
def visit (model : Model R G) (u : UntilCheck R G) (elapsed : R) (s : State R) :
    Run R (Session R G Unit) (Verdict R) :=
  if u.lower ≤ elapsed then lookThen u .post s do return (← u.look .pre s, none)
  else lookThen u .pre s do
    let drawn ← Run.transition model s
    if u.lower < elapsed + drawn.dwell then return (← u.look .post s, some drawn)
    return (.open, some drawn)

/-- Takes the transition out of a state: the path ends open, or it goes on to the next state. -/
def leave (u : UntilCheck R G) (origin : R) (s : State R) (t : Transition R) :
    Outcome ⊕ State R :=
  if t.isAbsorbing then .inl .open
  else if u.upper < (s.successor t).time - origin then .inl .open
  else .inr (s.successor t)

/-- Passes the cutoff and the transition of a state that leaves the path open. -/
def goOn (model : Model R G) (u : UntilCheck R G) (origin : R) (s : State R) (length : Nat)
    (drawn : Option (Transition R)) : Run R (Session R G Unit) (Outcome ⊕ State R) := do
  let p ← Run.params
  if p.maxPathLength.any (· ≤ length) then return .inl .open
  else
    let t ← match drawn with
      | some t => pure t
      | none => Run.transition model s
    return leave u origin s t

/-- Passes one state: the path ends with an outcome, or it goes on to the next state. -/
def advance (model : Model R G) (u : UntilCheck R G) (origin : R) (s : State R) (length : Nat) :
    Run R (Session R G Unit) (Outcome ⊕ State R) := do
  let (outcome, drawn) ← visit model u (s.time - origin) s
  match outcome with
  | .open => goOn model u origin s length drawn
  | decided => return .inl decided

/-- Passes states until the path has ended, at most `fuel` of them. -/
def run (model : Model R G) (u : UntilCheck R G) (origin : R) :
    (fuel : Nat) → State R → (length : Nat) → Run R (Session R G Unit) Outcome
  | 0, _, _ => throw .outOfFuel
  | fuel + 1, s, length => do
    match ← advance model u origin s length with
    | .inl outcome => return outcome
    | .inr next => run model u origin fuel next (length + 1)

variable {model : Model R G} {u : UntilCheck R G} {origin : R}

/-- A path that ends within some fuel ends in the same way within more. -/
theorem run_mono {fuel : Nat} {s : State R} {length : Nat} {σ σ' : Session R G Unit} {o : Outcome}
    (h : run model u origin fuel s length σ = .ok (o, σ')) (more : Nat) :
    run model u origin (fuel + more) s length σ = .ok (o, σ') := by
  induction fuel generalizing s length σ with
  | zero => exact (Run.throw_ne_ok h).elim
  | succ fuel ih =>
    rw [Nat.add_right_comm]
    rw [run, Run.bind_eq_ok] at h ⊢
    obtain ⟨next, σ₁, hnext, h⟩ := h
    refine ⟨next, σ₁, hnext, ?_⟩
    cases next with
    | inl outcome => exact h
    | inr next => exact ih h

/-- Two ends of the same path agree. -/
theorem run_unique {fuel fuel' : Nat} {s : State R} {length : Nat} {σ τ τ' : Session R G Unit}
    {o o' : Outcome} (h : run model u origin fuel s length σ = .ok (o, τ))
    (h' : run model u origin fuel' s length σ = .ok (o', τ')) : o = o' := by
  rcases Nat.le_total fuel fuel' with hle | hle
  · obtain ⟨d, rfl⟩ := Nat.exists_eq_add_of_le hle
    have := (run_mono h d).symm.trans h'
    cases this
    rfl
  · obtain ⟨d, rfl⟩ := Nat.exists_eq_add_of_le hle
    have := h.symm.trans (run_mono h' d)
    cases this
    rfl

end Immediate

end SimCheck
