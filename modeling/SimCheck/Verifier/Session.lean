import SimCheck.Model
import SimCheck.Test.Threshold
import SimCheck.Verifier.Cache
import SimCheck.Verifier.Source
import SimCheck.Verifier.Stats

/-!
# Sessions

A computation of the verifier runs in a `Session`: the verifier proper and the source of
observations.  It ends with a value and the session after it, or it halts at a fault or when its
fuel is spent.

* `Verifier` is what survives between top-level calls: parameters, generator, statistics, cache,
  nesting level and event log;
* `Run` is the type of computations; `Run.locally` gives a computation its observations by
  simulation alone, and leaves the source untouched;
* `Budgeted` names the two operations on error bounds that the connectives need: reading them, and
  running a computation within others.
-/

namespace SimCheck

/-- Why a computation has no value. -/
inductive Halt (R : Type)
  | fault (f : Fault R)
  | outOfFuel

/-- What the verifier reports while it works. -/
inductive Event (R : Type)
  /-- A threshold has been decided from a state. -/
  | testFinished (level : Nat) (property : PropertyId) (state : State R) (test : ThresholdTest R)
  /-- The pending checks of a path are resolved with a share of its error. -/
  | resolvingPrefix (property : PropertyId) (length : Nat) (bound : R)
  /-- A sequential estimate is complete. -/
  | estimateFinished (estimate : IntervalEstimate R)

/-- What a verifier carries from call to call. -/
structure Verifier (R G : Type) where
  params : Params R
  generator : G
  stats : Stats R
  cache : SampleCache R
  /-- The number of thresholds around the computation. -/
  level : Nat
  /-- What has been reported, the latest first. -/
  events : List (Event R)

/-- A verifier and the source of its observations. -/
structure Session (R G S : Type) where
  verifier : Verifier R G
  source : S

/-- Computations that change a state and may halt. -/
abbrev Run (R σ : Type) := StateT σ (Except (Halt R))

/-- Computations that run within error bounds. -/
class Budgeted (R : outParam Type) (m : Type → Type) where
  /-- The error bounds in force. -/
  bounds : m (ErrorBounds R)
  /-- Runs a computation within other error bounds. -/
  within {α : Type} : ErrorBounds R → m α → m α

namespace Run

variable {R G S α : Type}

/-- Halts at a fault. -/
def ofExcept {σ : Type} : Except (Fault R) α → Run R σ α
  | .ok a => pure a
  | .error f => throw (.fault f)

/-- The verifier of the session. -/
def verifier : Run R (Session R G S) (Verifier R G) := return (← get).verifier

/-- Changes the verifier of the session. -/
def modifyVerifier (f : Verifier R G → Verifier R G) : Run R (Session R G S) Unit :=
  modify fun s => { s with verifier := f s.verifier }

/-- The parameters in force. -/
def params : Run R (Session R G S) (Params R) := return (← verifier).params

/-- Runs a computation within other error bounds and puts the parameters back afterwards. -/
def withinBounds (b : ErrorBounds R) (run : Run R (Session R G S) α) : Run R (Session R G S) α := do
  let saved ← params
  modifyVerifier fun v => { v with params := saved.withBounds b }
  let a ← run
  modifyVerifier fun v => { v with params := saved }
  return a

instance : Budgeted R (Run R (Session R G S)) where
  bounds := return (← params).bounds
  within := withinBounds

/-- Runs a computation one level deeper. -/
def nested (run : Run R (Session R G S) α) : Run R (Session R G S) α := do
  modifyVerifier fun v => { v with level := v.level + 1 }
  let a ← run
  modifyVerifier fun v => { v with level := v.level - 1 }
  return a

/-- Reports an event. -/
def report (e : Event R) : Run R (Session R G S) Unit :=
  modifyVerifier fun v => { v with events := e :: v.events }

/-- Changes the statistics. -/
def modifyStats (f : Stats R → Stats R) : Run R (Session R G S) Unit :=
  modifyVerifier fun v => { v with stats := f v.stats }

/-- Runs a computation whose observations are simulated; the source is not consulted. -/
def locally (run : Run R (Session R G Unit) α) : Run R (Session R G S) α := fun s =>
  match run ⟨s.verifier, ()⟩ with
  | .ok (a, t) => .ok (a, ⟨t.verifier, s.source⟩)
  | .error h => .error h

/-- Draws the transition out of a state. -/
def transition (model : Model R G) (s : State R) : Run R (Session R G S) (Transition R) := do
  let v ← verifier
  let (t, generator) ← ofExcept (model s v.generator)
  modifyVerifier fun v => { v with generator }
  return t

/-- Tells the source that a test begins. -/
def beginRun (src : SampleSource R S) (id : PropertyId) (s : State R) :
    Run R (Session R G S) Unit :=
  modify fun session => { session with source := src.beginRun id s session.source }

/-- Tells the source that a test has ended. -/
def endRun (src : SampleSource R S) (id : PropertyId) : Run R (Session R G S) Unit :=
  modify fun session => { session with source := src.endRun id session.source }

/-- Follows the course of a request, simulating paths where the source wants them. -/
def follow (simulate : Run R (Session R G Unit) Bool) : Draw S → Run R (Session R G S) Bool
  | .answer b source => do
    modify fun session => { session with source }
    return b
  | .simulate next => do
    let b ← locally simulate
    follow simulate (next b)
  | .stalled => throw .outOfFuel

/-- Asks the source for an observation. -/
def draw (src : SampleSource R S) (simulate : Run R (Session R G Unit) Bool) :
    Run R (Session R G S) Bool := do
  follow simulate (src.next (← get).source)

end Run

end SimCheck
