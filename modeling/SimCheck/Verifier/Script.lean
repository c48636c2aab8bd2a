import SimCheck.Verifier.Source

/-!
# Scripted sources

A source that answers from a script, over and over, and keeps a log of what was asked of it.

* `Script` is the source's state: instructions, position and log;
* `Script.source` is the source.
-/

namespace SimCheck

/-- What a scripted source does about one request. -/
inductive Instruction
  | answer (observation : Bool)
  | simulate

/-- The end points of a test, as its source sees them. -/
inductive RunMark (R : Type)
  | begun (property : PropertyId) (state : State R)
  | ended (property : PropertyId)

/-- A script that is under way. -/
structure Script (R : Type) where
  instructions : Array Instruction
  /-- The number of observations that have been asked for. -/
  observations : Nat
  /-- The number of observations that were simulated. -/
  simulated : Nat
  /-- The tests that have begun and ended, the latest first. -/
  marks : List (RunMark R)

namespace Script

variable {R : Type}

/-- A script at its start. -/
def start (instructions : List Instruction) : Script R := ⟨instructions.toArray, 0, 0, []⟩

/-- The instruction that is next; an empty script simulates. -/
def current (s : Script R) : Instruction :=
  (s.instructions[s.observations % s.instructions.size]?).getD .simulate

/-- The source that goes through its script over and over. -/
def source (R : Type) : SampleSource R (Script R) where
  beginRun id state s := { s with marks := .begun id state :: s.marks }
  next s :=
    let after := { s with observations := s.observations + 1 }
    match s.current with
    | .answer b => .answer b after
    | .simulate => .simulate fun b => .answer b { after with simulated := s.simulated + 1 }
  endRun id s := { s with marks := .ended id :: s.marks }

end Script

end SimCheck
