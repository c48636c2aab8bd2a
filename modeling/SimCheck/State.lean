import SimCheck.Fault
import SimCheck.Scalar.Basic

/-!
# States and transitions

A `State` is a valuation of the model variables with the time at which it was entered.  A
`Transition` is the next valuation with the time spent before moving to it; an infinite dwell time
means that the state is never left.

* `State.value?` reads a variable, a fault if there is none;
* `State.successor` applies a transition;
* `Expression` is a labelled Boolean function of a state.
-/

namespace SimCheck

/-- The values of the model variables. -/
abbrev Valuation := List Int64

/-- A valuation and the time at which it was entered. -/
structure State (R : Type) where
  values : Valuation
  time : R

/-- The next valuation and the time spent before moving to it. -/
structure Transition (R : Type) where
  values : Valuation
  dwell : R

variable {R : Type}

namespace State

/-- The value of a variable; a state without it is a fault. -/
def value? (s : State R) (index : Nat) : Except (Fault R) Int64 :=
  match s.values[index]? with
  | some v => .ok v
  | none => .error (.indexOutOfBounds s.values.length index)

variable [Scalar R]

/-- The state with these values entered at time zero. -/
def ofValues (values : Valuation) : State R := ⟨values, 0⟩

/-- The state a transition leads to. -/
def successor (s : State R) (t : Transition R) : State R := ⟨t.values, s.time + t.dwell⟩

@[simp] theorem values_successor (s : State R) (t : Transition R) :
    (s.successor t).values = t.values := rfl

@[simp] theorem time_successor (s : State R) (t : Transition R) :
    (s.successor t).time = s.time + t.dwell := rfl

end State

namespace Transition

variable [Scalar R]

/-- The transition that stays with these values for ever. -/
def absorbing (values : Valuation) : Transition R := ⟨values, Scalar.infinity⟩

/-- Whether the state is never left. -/
def isAbsorbing (t : Transition R) : Bool := Scalar.isInfinite t.dwell

end Transition

/-- How an expression compares a variable with a constant. -/
inductive Comparison
  | equal
  | greater
  | less
  deriving DecidableEq

/-- Whether the first word stands in the relation to the second. -/
def Comparison.holds : Comparison → Int64 → Int64 → Bool
  | .equal, a, b => a == b
  | .greater, a, b => decide (b < a)
  | .less, a, b => decide (a < b)

/-- A Boolean function of a state, with a label for diagnostics. -/
structure Expression (R : Type) where
  label : String
  holds : State R → Except (Fault R) Bool

namespace Expression

/-- The expression that is `true` or `false` in every state. -/
def constant (b : Bool) : Expression R := ⟨toString b, fun _ => .ok b⟩

/-- A labelled comparison of a variable with a constant. -/
def comparing (label : String) (c : Comparison) (index : Nat) (v : Int64) : Expression R where
  label
  holds s := (s.value? index).map fun x => c.holds x v

/-- The expression `x[index] = v`. -/
def equals (index : Nat) (v : Int64) : Expression R :=
  comparing s!"x{index}={v.toInt}" .equal index v

/-- An expression that looks at the values of a state and not at its time. -/
def IgnoresTime (e : Expression R) : Prop :=
  ∀ s t : State R, s.values = t.values → e.holds s = e.holds t

theorem constant_ignoresTime (b : Bool) : (constant b : Expression R).IgnoresTime :=
  fun _ _ _ => rfl

theorem comparing_ignoresTime (label : String) (c : Comparison) (index : Nat) (v : Int64) :
    (comparing label c index v : Expression R).IgnoresTime := by
  intro s t h
  simp only [comparing, State.value?, h]

end Expression

end SimCheck
