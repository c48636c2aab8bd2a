import SimCheck.Model

/-!
# Models given by rules

A `RuleModel` is a list of guarded rules.  The first rule whose guards all hold gives the
transition: one of its branches is chosen by weight, the terms of the branch are the next values,
and its dwell is fixed or exponentially distributed.  Where no rule applies, or the rule has no
branch, the state is absorbing.

* `Guard`, `Term`, `Dwell`, `Branch`, `Rule`: the parts of a model;
* `RuleModel.toModel` is the model, over a source of uniform draws;
* `Model.trajectory` lists the successive states.
-/

namespace SimCheck

/-- A condition on one variable. -/
structure Guard where
  comparison : Comparison
  index : Nat
  value : Int64

/-- The next value of a variable; the arithmetic wraps around. -/
inductive Term
  | constant (value : Int64)
  /-- A multiple of a variable and a summand. -/
  | affine (index : Nat) (factor summand : Int64)
  /-- The nonnegative remainder of that modulo a word. -/
  | reduced (index : Nat) (factor summand modulus : Int64)

/-- The time spent in a state before it is left. -/
inductive Dwell (R : Type)
  | fixed (time : R)
  /-- Exponentially distributed. -/
  | exponential (rate : R)

/-- One way to leave a state. -/
structure Branch (R : Type) where
  weight : R
  terms : List Term
  dwell : Dwell R

/-- Branches that are open when all guards hold. -/
structure Rule (R : Type) where
  guards : List Guard
  branches : List (Branch R)

/-- A model as a list of rules, of which the first that applies counts. -/
structure RuleModel (R : Type) where
  rules : List (Rule R)

variable {R : Type}

/-- The nonnegative remainder of a word; there is none modulo zero, nor of the least word modulo
minus one. -/
def remainder? (x m : Int64) : Except (Fault R) Int64 :=
  if m = 0 then .error .zeroModulus
  else if x = Int64.minValue ∧ m = -1 then .error .remainderOverflow
  else .ok (.ofInt (x.toInt % m.toInt))

/-- Whether a guard holds in a state. -/
def Guard.holds (g : Guard) (s : State R) : Except (Fault R) Bool :=
  (s.value? g.index).map fun x => g.comparison.holds x g.value

/-- The value of a term in a state. -/
def Term.value (s : State R) : Term → Except (Fault R) Int64
  | .constant v => .ok v
  | .affine index factor summand => (s.value? index).map fun x => x * factor + summand
  | .reduced index factor summand modulus => do
    let x ← s.value? index
    remainder? (x * factor + summand) modulus

/-- Whether all guards of a list hold; the first that fails ends the list. -/
def Guard.allHold (s : State R) : List Guard → Except (Fault R) Bool
  | [] => .ok true
  | g :: gs => do
    if ← g.holds s then allHold s gs else return false

/-- The first rule of a list that applies in a state. -/
def Rule.first? (s : State R) : List (Rule R) → Except (Fault R) (Option (Rule R))
  | [] => .ok none
  | r :: rs => do
    if ← Guard.allHold s r.guards then return some r else first? s rs

variable [Scalar R]

/-- The first branch for which `u` lies below the weights up to its own, else the last.  The weights
before `b` add up to `below`. -/
def Branch.choose (u below : R) (b : Branch R) : List (Branch R) → Branch R
  | [] => b
  | c :: bs => if u < below + b.weight then b else choose u (below + b.weight) c bs

namespace RuleModel

variable {G : Type}

/-- Draws a branch; a single one is taken without a draw. -/
def branch (draw : G → R × G) (b : Branch R) : List (Branch R) →
    StateT G (Except (Fault R)) (Branch R)
  | [] => return b
  | bs => do
    let (u, g) := draw (← get)
    set g
    return b.choose u 0 bs

/-- Draws the time spent in the state. -/
def dwell (draw : G → R × G) : Dwell R → StateT G (Except (Fault R)) R
  | .fixed time => return time
  | .exponential rate => do
    let (u, g) := draw (← get)
    set g
    return -(Scalar.ln (1 - u)) / rate

/-- The stochastic model that the rules describe. -/
def toModel (m : RuleModel R) (draw : G → R × G) : Model R G := fun s => do
  match ← (Rule.first? s m.rules : Except (Fault R) _) with
  | none => return .absorbing s.values
  | some ⟨_, []⟩ => return .absorbing s.values
  | some ⟨_, b :: bs⟩ =>
    let chosen ← branch draw b bs
    let values ← (chosen.terms.mapM (Term.value s) : Except (Fault R) _)
    let time ← dwell draw chosen.dwell
    return ⟨values, time⟩

end RuleModel

/-- The states after the first one, at most `n` of them, and whether the last is never left. -/
def Model.trajectory {G : Type} (m : Model R G) :
    Nat → State R → StateT G (Except (Fault R)) (List (State R) × Bool)
  | 0, _ => return ([], false)
  | n + 1, s => do
    let t ← m s
    if t.isAbsorbing then return ([], true)
    let next := s.successor t
    let (rest, absorbed) ← m.trajectory n next
    return (next :: rest, absorbed)

end SimCheck
