import SimCheck.Coordinator.Basic

/-!
# Taking turns

The producer at the head of the schedule gives the next observation and goes to the tail.  A dead
worker leaves the schedule once its observations are used up.  Without producers the coordinator
simulates.
-/

namespace SimCheck

/-- What the head of the schedule has to offer. -/
inductive Turn
  /-- A path is simulated locally. -/
  | simulate (next : Coordinator)
  /-- An observation of a worker. -/
  | deliver (id : ClientId) (value : Bool) (next : Coordinator)
  /-- A worker from which nothing has come yet. -/
  | wait (id : ClientId) (next : Coordinator)

namespace Coordinator

/-- Moves a producer from the head of the schedule to its tail. -/
def rotate (c : Coordinator) : Coordinator :=
  match c.schedule with
  | [] => c
  | p :: ps => { c with schedule := ps ++ [p] }

/-- Drops the head of the schedule, a worker that is gone. -/
def dropHead (c : Coordinator) (id : ClientId) : Coordinator :=
  remove { c with schedule := c.schedule.tail } id

/-- Uses up the first observation of a worker, which has this value. -/
def consume (c : Coordinator) (id : ClientId) (value : Bool) : Coordinator :=
  { c.modifyPeer id fun p => { p with samples := p.samples.tail } with
    history := .delivered id value :: c.history }

theorem length_dropHead_lt {c : Coordinator} {p : Producer} {ps : List Producer} (id : ClientId)
    (h : c.schedule = p :: ps) : (c.dropHead id).schedule.length < c.schedule.length := by
  simp only [dropHead, remove, h, List.tail_cons, List.length_cons]
  exact Nat.lt_succ_of_le (List.length_filter_le _ _)

/-- Looks at the head of the schedule; workers that are gone are dropped on the way. -/
def turn (c : Coordinator) : Turn :=
  match _ : c.schedule with
  | [] => .simulate c
  | .local :: _ => .simulate c.rotate
  | .remote id :: _ =>
    match c.peer? id with
    | none => (c.dropHead id).turn
    | some p =>
      match p.samples with
      | value :: _ => .deliver id value (c.consume id value).rotate
      | [] => if p.dead then (c.dropHead id).turn else .wait id c
termination_by c.schedule.length
decreasing_by all_goals exact length_dropHead_lt id ‹_›

end Coordinator

end SimCheck
