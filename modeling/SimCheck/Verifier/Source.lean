import SimCheck.Identifier
import SimCheck.State

/-!
# Sources of observations

The observations of a top-level test come from a source.  The verifier brackets each test with
`beginRun` and `endRun` and asks for one observation at a time; the source answers with one that was
made elsewhere, or has paths simulated.

* `Draw` is the course of one request: an answer, a simulation whose outcome the source goes on
  from, or no answer at all;
* `SampleSource` is a source with states in `S`;
* `SampleSource.simulating` has every observation simulated.
-/

namespace SimCheck

/-- The course of one request for an observation. -/
inductive Draw (S : Type)
  /-- The observation, and the state of the source after it. -/
  | answer (observation : Bool) (source : S)
  /-- One path is simulated, and the source goes on from its outcome. -/
  | simulate (next : Bool → Draw S)
  /-- The source never answers. -/
  | stalled

/-- Where the observations of top-level tests come from. -/
structure SampleSource (R S : Type) where
  /-- A test of a path property from a state begins. -/
  beginRun : PropertyId → State R → S → S
  /-- The next observation is asked for. -/
  next : S → Draw S
  /-- The test has ended. -/
  endRun : PropertyId → S → S

/-- The source that has every observation simulated. -/
def SampleSource.simulating (R : Type) : SampleSource R Unit where
  beginRun _ _ s := s
  next s := .simulate fun b => .answer b s
  endRun _ s := s

end SimCheck
