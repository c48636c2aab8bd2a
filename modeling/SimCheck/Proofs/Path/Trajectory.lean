import SimCheck.Scalar.Exact
import SimCheck.Model

/-!
# Trajectories in exact time

A model and a generator determine the states that are passed from a start, each with the generator
that is there on arrival and the time that has gone by.

* `Place` is a state on the way, `Visits model first k p` says that `p` is number `k`;
* `Visits.unique`, `Visits.of_lt`: a trajectory has one place of each number, and none is left out;
* `Visits.elapsed_le`: time does not run backwards when no dwell time is negative.
-/

namespace SimCheck

variable {G : Type}

/-- A state on a trajectory. -/
structure Place (G : Type) where
  state : State EReal
  /-- The generator on arrival. -/
  generator : G
  /-- The time since the start. -/
  elapsed : EReal

/-- The place that a transition leads to. -/
noncomputable def Place.after (p : Place G) (t : Transition EReal) (g : G) : Place G :=
  ⟨p.state.successor t, g, p.elapsed + t.dwell⟩

/-- The place is number `k` on the trajectory of a model from the first one.  A place is not left by
an absorbing transition. -/
inductive Visits (model : Model EReal G) (first : Place G) : ℕ → Place G → Prop
  | start : Visits model first 0 first
  | move {k : ℕ} {p : Place G} {t : Transition EReal} {g : G} (h : Visits model first k p)
    (hdraw : model p.state p.generator = .ok (t, g)) (hleft : t.isAbsorbing = false) :
    Visits model first (k + 1) (p.after t g)

/-- No place on the trajectory has a negative dwell time. -/
def DwellsForward (model : Model EReal G) (first : Place G) : Prop :=
  ∀ k p t g, Visits model first k p → model p.state p.generator = .ok (t, g) → 0 ≤ t.dwell

namespace Visits

variable {model : Model EReal G} {first p q : Place G} {k n : ℕ}

theorem unique (hp : Visits model first k p) (hq : Visits model first k q) : p = q := by
  induction hp generalizing q with
  | start =>
    cases hq
    rfl
  | move hp hdraw _ ih =>
    cases hq with
    | move hq hdraw' _ =>
      cases ih hq
      rw [hdraw] at hdraw'
      cases hdraw'
      rfl

/-- The places before a place have been visited, and left for the next one. -/
theorem of_lt (hq : Visits model first k q) (hn : n < k) :
    ∃ p t g, Visits model first n p ∧ model p.state p.generator = .ok (t, g) ∧
      t.isAbsorbing = false ∧ Visits model first (n + 1) (p.after t g) := by
  induction hq with
  | start => exact (Nat.not_lt_zero n hn).elim
  | @move k p t g hp hdraw hleft ih =>
    rcases Nat.lt_succ_iff_lt_or_eq.1 hn with hlt | rfl
    · exact ih hlt
    · exact ⟨p, t, g, hp, hdraw, hleft, .move hp hdraw hleft⟩

/-- Beyond a place the trajectory goes on with the transition that is drawn there. -/
theorem next (hp : Visits model first n p) {t : Transition EReal} {g : G}
    (hdraw : model p.state p.generator = .ok (t, g)) (hq : Visits model first k q) (hn : n < k) :
    t.isAbsorbing = false ∧ Visits model first (n + 1) (p.after t g) := by
  obtain ⟨p', t', g', hp', hdraw', hleft, hnext⟩ := hq.of_lt hn
  cases hp.unique hp'
  rw [hdraw] at hdraw'
  cases hdraw'
  exact ⟨hleft, hnext⟩

theorem elapsed_le (hforward : DwellsForward model first) (hp : Visits model first n p)
    (hq : Visits model first k q) (hn : n ≤ k) : p.elapsed ≤ q.elapsed := by
  induction hq with
  | start =>
    obtain rfl := Nat.le_zero.1 hn
    cases hp
    exact le_rfl
  | @move k q t g hq hdraw hleft ih =>
    rcases Nat.le_succ_iff.1 hn with hle | rfl
    · calc p.elapsed ≤ q.elapsed := ih hle
        _ = q.elapsed + 0 := (add_zero _).symm
        _ ≤ q.elapsed + t.dwell := add_le_add_right (hforward k q t g hq hdraw) _
    · rw [hp.unique (.move hq hdraw hleft)]

end Visits

end SimCheck
