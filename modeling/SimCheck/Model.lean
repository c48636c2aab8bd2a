import SimCheck.State

/-!
# Stochastic models

A model draws the transition out of a state from a generator of random numbers.  The same generator
and the same state always give the same transition.
-/

namespace SimCheck

/-- Draws the transition out of a state. -/
abbrev Model (R G : Type) := State R → StateT G (Except (Fault R)) (Transition R)

end SimCheck
