import SimCheck.Decimal.Text
import SimCheck.Property
import SimCheck.Scalar.Binary64

/-!
# Properties as formulas

`Property.text` and `PathProperty.text` write a tree as a formula: connectives with their operands
in parentheses, negation as `!`, thresholds as `P>=0.5 [pre U[0,2] post]`.  The window is left out
when it is the whole time axis.  `State.text` writes the values and the time of a state.
-/

namespace SimCheck

/-- A state as `[values]@time`. -/
def State.text (s : State Float) : String :=
  "[" ++ ", ".intercalate (s.values.map fun v => toString v.toInt) ++ "]@" ++ Decimal.text s.time

/-- The sign between the operands of a connective. -/
def Connective.text : Connective → String
  | .conjunction => "&"
  | .disjunction => "|"
  | .equivalence => "<=>"

/-- The sign of a threshold. -/
def ThresholdOp.text : ThresholdOp → String
  | .atLeast => ">="
  | .above => ">"

/-- What stands between the two sides of an until. -/
def untilText (lower upper : Float) : String :=
  if Scalar.isFinite upper || decide (0 < lower) then
    " U[" ++ Decimal.text lower ++ "," ++ Decimal.text upper ++ "] "
  else " U "

namespace Property

mutual

/-- The formula of a property. -/
def text : Property Float → String
  | .expr e => e.label
  | .not p => "!" ++ text p
  | .combine c head ps =>
    let operands := (head.map (·.label)).toList ++ texts ps
    "(" ++ (" " ++ c.text ++ " ").intercalate operands ++ ")"
  | .threshold op bound (.until _ lower upper pre post) =>
    "P" ++ op.text ++ Decimal.text bound ++ " [" ++ text pre ++ untilText lower upper
      ++ text post ++ "]"

/-- The formulas of a list of properties. -/
def texts : List (Property Float) → List String
  | [] => []
  | p :: ps => text p :: texts ps

end

end Property

/-- The formula of a path property. -/
def PathProperty.text (p : PathProperty Float) : String :=
  p.pre.text ++ untilText p.lower p.upper ++ p.post.text

end SimCheck
