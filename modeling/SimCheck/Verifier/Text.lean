import SimCheck.Params.Text
import SimCheck.Verifier.Query

/-!
# Wording of refused queries

`QueryError.message` says why a query is refused.
-/

namespace SimCheck

/-- The wording of a refusal. -/
def QueryError.message : QueryError Float → String
  | .params e => "invalid parameters: " ++ e.message
  | .estimationWithoutDelta delta =>
    "estimation needs a positive delta, got " ++ Decimal.text delta

end SimCheck
