import SimCheck.Proofs.Free
import SimCheck.Proofs.Path.Immediate

/-!
# Resolving a trace

The pending steps of a trace have an outcome of their own: that of the first step in path order that
does not leave the path open, when deferred sides answer as they would if they were asked.  Resolving
the trace finds it, whatever has been resolved before.

* `UntilCheck.Consults u v`: the sides of `u` answer `v`, whenever they are asked;
* `Trace.decided v t`: the outcome of the pending steps of a trace;
* `UntilCheck.record_eq_ok`: recording a side adds its outcome;
* `Trace.replay_eq_ok`, `Trace.resolve_eq_ok`: resolving a trace finds its outcome.
-/

namespace SimCheck

open Run (Settled Keeps)

variable {R G : Type}

/-- What the course of a path depends on: the parameters and the generator. -/
def Session.course (s : Session R G Unit) : Params R × G := (s.verifier.params, s.verifier.generator)

/-- The sides of the until answer `v`.  Those without thresholds do so without an effect, unless they
halt; those with thresholds always answer and do not touch the course of the path. -/
structure UntilCheck.Consults (u : UntilCheck R G) (v : Side → State R → Bool) : Prop where
  known : ∀ side s, (u.side side).probabilistic = false → Settled ((u.side side).check s) (v side s)
  asked : ∀ side s, (u.side side).probabilistic = true → ∀ σ, ∃ σ',
    (u.side side).check s σ = .ok (v side s, σ') ∧ σ'.course = σ.course
  /-- The left side with thresholds looks at the values of a state only. -/
  values : u.pre.probabilistic = true → ∀ s t, s.values = t.values → v .pre s = v .pre t

namespace UntilCheck.Consults

variable {u : UntilCheck R G} {v : Side → State R → Bool}

theorem answers (hu : u.Consults v) {side : Side} {s : State R} {σ σ' : Session R G Unit} {b : Bool}
    (h : (u.side side).check s σ = .ok (b, σ')) : b = v side s ∧ σ'.course = σ.course := by
  cases hp : (u.side side).probabilistic with
  | false =>
    obtain ⟨rfl, rfl⟩ := (hu.known side s hp).answers h
    exact ⟨rfl, rfl⟩
  | true =>
    obtain ⟨τ, hτ, hcourse⟩ := hu.asked side s hp σ
    rw [hτ] at h
    cases h
    exact ⟨rfl, hcourse⟩

/-- A side that is not observed to halt can be looked at in any session. -/
theorem look_eq_ok (hu : u.Consults v) {side : Side} {s : State R} {σ σ' : Session R G Unit}
    {step : Step R} (h : u.observe side s σ = .ok (step, σ')) (τ : Session R G Unit) :
    ∃ τ', u.look side s τ = .ok (side.outcome (v side s), τ') ∧ τ'.course = τ.course := by
  have hlook : ∀ τ', (u.side side).check s τ = .ok (v side s, τ') →
      u.look side s τ = .ok (side.outcome (v side s), τ') := by
    intro τ' hτ
    unfold UntilCheck.look
    rw [Run.bind_eq_ok]
    exact ⟨_, _, hτ, rfl⟩
  cases hp : (u.side side).probabilistic with
  | true =>
    obtain ⟨τ', hτ, hcourse⟩ := hu.asked side s hp τ
    exact ⟨τ', hlook τ' hτ, hcourse⟩
  | false =>
    unfold UntilCheck.observe at h
    rw [hp] at h
    obtain ⟨b, σ₁, hb, -⟩ := Run.bind_eq_ok.1 h
    exact ⟨τ, hlook τ ((hu.known side s hp).eq_ok hb τ), rfl⟩

end UntilCheck.Consults

/-! ### Traces -/

/-- The first outcome, unless it leaves the path open. -/
def Outcome.orElse : Outcome → Outcome → Outcome
  | .open, o => o
  | o, _ => o

@[simp] theorem Outcome.open_orElse (o : Outcome) : Outcome.orElse .open o = o := rfl

@[simp] theorem Outcome.orElse_open (o : Outcome) : o.orElse .open = o := by cases o <;> rfl

theorem Outcome.orElse_assoc (a b c : Outcome) : (a.orElse b).orElse c = a.orElse (b.orElse c) := by
  cases a <;> rfl

theorem Outcome.orElse_of_ne_open {a : Outcome} (h : a ≠ .open) (b : Outcome) : a.orElse b = a := by
  cases a with
  | «open» => exact (h rfl).elim
  | satisfied => rfl
  | violated => rfl

/-- The outcome of a step, checked if it is not known. -/
def Step.verdict (v : Side → State R → Bool) (step : Step R) : Outcome :=
  match step.finding with
  | .known holds => step.side.outcome holds
  | .deferred s => step.side.outcome (v step.side s)

/-- The outcome of steps in path order. -/
def decided (v : Side → State R → Bool) : List (Step R) → Outcome
  | [] => .open
  | step :: steps => (step.verdict v).orElse (decided v steps)

theorem decided_append (v : Side → State R → Bool) (steps steps' : List (Step R)) :
    decided v (steps ++ steps') = (decided v steps).orElse (decided v steps') := by
  induction steps with
  | nil => rfl
  | cons step steps ih => rw [List.cons_append, decided, decided, ih, Outcome.orElse_assoc]

namespace Trace

variable {v : Side → State R → Bool} {u : UntilCheck R G} {t : Trace R}

/-- The outcome of the pending steps. -/
def decided (v : Side → State R → Bool) (t : Trace R) : Outcome :=
  SimCheck.decided v t.pending.reverse

/-- Deferred steps belong to sides with thresholds, and the verdicts reached are right. -/
structure Sound (u : UntilCheck R G) (v : Side → State R → Bool) (t : Trace R) : Prop where
  deferred : ∀ side s, ⟨side, .deferred s⟩ ∈ t.pending → (u.side side).probabilistic = true
  verdicts : ∀ s b, t.preVerdicts.lookup s.values = some b → v .pre s = b

theorem start_sound (budget : R) : (start budget).Sound u v :=
  ⟨fun _ _ h => (nomatch h), fun _ _ h => (nomatch h)⟩

/-- A step that is not kept leaves the path open. -/
theorem decided_push (t : Trace R) (step : Step R) :
    (t.push step).decided v = (t.decided v).orElse (step.verdict v) := by
  unfold push decided
  split_ifs with hkept
  · rw [List.reverse_cons, decided_append]
    simp [SimCheck.decided]
  · obtain ⟨side, finding⟩ := step
    cases finding with
    | deferred s => simp [Step.isDeferred] at hkept
    | known holds =>
      have hopen : side.outcome holds = .open := by
        simpa [Step.isFinal, Step.isDeferred, Step.outcome] using hkept
      simp [Step.verdict, hopen]

theorem Sound.push (ht : t.Sound u v) {step : Step R}
    (hstep : ∀ s, step.finding = .deferred s → (u.side step.side).probabilistic = true) :
    (t.push step).Sound u v := by
  unfold Trace.push
  split_ifs
  · refine ⟨?_, ht.verdicts⟩
    intro side s hs
    rcases List.mem_cons.1 hs with rfl | hs
    · exact hstep s rfl
    · exact ht.deferred side s hs
  · exact ht

end Trace

/-! ### Recording -/

namespace UntilCheck

variable {u : UntilCheck R G} {v : Side → State R → Bool}

/-- What is observed about a side has the outcome of its verdict. -/
theorem observe_eq_ok (hu : u.Consults v) {side : Side} {s : State R} {step : Step R}
    {σ σ' : Session R G Unit} (h : u.observe side s σ = .ok (step, σ')) :
    step.verdict v = side.outcome (v side s) ∧ σ'.course = σ.course ∧
      (∀ s', step.finding = .deferred s' → (u.side step.side).probabilistic = true) ∧
      (step.isFinal = true → side.outcome (v side s) ≠ .open) := by
  unfold UntilCheck.observe at h
  cases hp : (u.side side).probabilistic with
  | true =>
    rw [hp] at h
    obtain ⟨rfl, rfl⟩ := Run.pure_eq_ok.1 h
    refine ⟨rfl, rfl, fun _ _ => hp, fun hfinal => ?_⟩
    simp [Step.isFinal, Step.outcome] at hfinal
  | false =>
    rw [hp] at h
    obtain ⟨b, σ₁, hb, h⟩ := Run.bind_eq_ok.1 h
    obtain ⟨rfl, rfl⟩ := Run.pure_eq_ok.1 h
    obtain ⟨rfl, hcourse⟩ := hu.answers hb
    refine ⟨rfl, hcourse, fun _ h => (nomatch h), fun hfinal => ?_⟩
    simpa [Step.isFinal, Step.outcome] using hfinal

/-- Recording a side adds its outcome to the trace; and the side can be looked at instead. -/
theorem record_eq_ok (hu : u.Consults v) {side : Side} {s : State R} {t t' : Trace R}
    (ht : t.Sound u v) {final : Bool} {σ σ' : Session R G Unit}
    (h : u.record side s t σ = .ok ((t', final), σ')) :
    t'.decided v = (t.decided v).orElse (side.outcome (v side s)) ∧ t'.Sound u v ∧
      σ'.course = σ.course ∧ (final = true → side.outcome (v side s) ≠ .open) ∧
      ∀ τ, ∃ τ', u.look side s τ = .ok (side.outcome (v side s), τ') ∧ τ'.course = τ.course := by
  obtain ⟨step, σ₁, hstep, h⟩ := Run.bind_eq_ok.1 h
  obtain ⟨heq, rfl⟩ := Run.pure_eq_ok.1 h
  cases heq
  obtain ⟨hverdict, hcourse, hdeferred, hfinal⟩ := observe_eq_ok hu hstep
  refine ⟨?_, ht.push hdeferred, hcourse, hfinal, hu.look_eq_ok hstep⟩
  rw [Trace.decided_push, hverdict]

end UntilCheck

/-! ### Resolution -/

namespace Trace

variable {v : Side → State R → Bool} {u : UntilCheck R G} {t : Trace R}
variable {σ σ' : Session R G Unit}

/-- What is known about the left side stays right when a state is added. -/
theorem verdicts_cons (hu : u.Consults v) (hp : u.pre.probabilistic = true)
    {seen : List (Valuation × Bool)} (hseen : ∀ s b, seen.lookup s.values = some b → v .pre s = b)
    (s : State R) : ∀ s' b, ((s.values, v .pre s) :: seen).lookup s'.values = some b →
      v .pre s' = b := by
  intro s' b h
  rw [List.lookup_cons] at h
  by_cases hs : s'.values = s.values
  · rw [hs, beq_self_eq_true] at h
    cases h
    exact hu.values hp s' s hs
  · rw [beq_false_of_ne hs] at h
    exact hseen s' b h

theorem settle_eq_ok (hu : u.Consults v) {step : Step R}
    (hstep : ∀ s, step.finding = .deferred s → (u.side step.side).probabilistic = true)
    {seen : List (Valuation × Bool)} (hseen : ∀ s b, seen.lookup s.values = some b → v .pre s = b)
    {b : Bool} {seen' : List (Valuation × Bool)}
    (h : settle (fun side => (u.side side).check) step seen σ = .ok ((b, seen'), σ')) :
    step.side.outcome b = step.verdict v ∧ σ'.course = σ.course ∧
      ∀ s b, seen'.lookup s.values = some b → v .pre s = b := by
  obtain ⟨side, finding⟩ := step
  cases finding with
  | known holds =>
    have hpure : (pure (holds, seen) : Run R (Session R G Unit) _) σ = .ok ((b, seen'), σ') := by
      cases side <;> exact h
    obtain ⟨heq, rfl⟩ := Run.pure_eq_ok.1 hpure
    cases heq
    exact ⟨rfl, rfl, hseen⟩
  | deferred s =>
    cases side with
    | post =>
      obtain ⟨a, σ₁, ha, h⟩ := Run.bind_eq_ok.1 h
      obtain ⟨heq, rfl⟩ := Run.pure_eq_ok.1 h
      cases heq
      obtain ⟨rfl, hcourse⟩ := hu.answers ha
      exact ⟨rfl, hcourse, hseen⟩
    | pre =>
      unfold settle at h
      cases hlookup : seen.lookup s.values with
      | some a =>
        -- The verdict was reached for these values in another state.
        simp only [hlookup] at h
        obtain ⟨heq, rfl⟩ := Run.pure_eq_ok.1 h
        cases heq
        exact ⟨congrArg Side.pre.outcome (hseen s _ hlookup).symm, rfl, hseen⟩
      | none =>
        simp only [hlookup] at h
        obtain ⟨a, σ₁, ha, h⟩ := Run.bind_eq_ok.1 h
        obtain ⟨heq, rfl⟩ := Run.pure_eq_ok.1 h
        cases heq
        obtain ⟨rfl, hcourse⟩ := hu.answers ha
        exact ⟨rfl, hcourse, verdicts_cons hu (hstep s rfl) hseen s⟩

theorem replay_eq_ok (hu : u.Consults v) {steps : List (Step R)}
    (hsteps : ∀ side s, ⟨side, .deferred s⟩ ∈ steps → (u.side side).probabilistic = true)
    {seen : List (Valuation × Bool)} (hseen : ∀ s b, seen.lookup s.values = some b → v .pre s = b)
    {o : Outcome} {seen' : List (Valuation × Bool)}
    (h : replay (fun side => (u.side side).check) steps seen σ = .ok ((o, seen'), σ')) :
    o = SimCheck.decided v steps ∧ σ'.course = σ.course ∧
      ∀ s b, seen'.lookup s.values = some b → v .pre s = b := by
  induction steps generalizing seen σ with
  | nil =>
    obtain ⟨heq, rfl⟩ := Run.pure_eq_ok.1 h
    cases heq
    exact ⟨rfl, rfl, hseen⟩
  | cons step steps ih =>
    obtain ⟨⟨b, seen₁⟩, σ₁, hsettle, h⟩ := Run.bind_eq_ok.1 h
    have hstep : ∀ s, step.finding = .deferred s → (u.side step.side).probabilistic = true := by
      intro s hs
      refine hsteps step.side s (List.mem_cons.2 (.inl ?_))
      rw [← hs]
    obtain ⟨hverdict, hcourse, hseen₁⟩ := settle_eq_ok hu hstep hseen hsettle
    rw [SimCheck.decided, ← hverdict]
    cases hb : step.side.outcome b with
    | «open» =>
      simp only [hb] at h
      have hrest := fun side s hs => hsteps side s (List.mem_cons_of_mem _ hs)
      obtain ⟨ho, hcourse₁, hseen'⟩ := ih hrest hseen₁ h
      exact ⟨ho, hcourse₁.trans hcourse, hseen'⟩
    | satisfied =>
      simp only [hb] at h
      obtain ⟨heq, rfl⟩ := Run.pure_eq_ok.1 h
      cases heq
      exact ⟨rfl, hcourse, hseen₁⟩
    | violated =>
      simp only [hb] at h
      obtain ⟨heq, rfl⟩ := Run.pure_eq_ok.1 h
      cases heq
      exact ⟨rfl, hcourse, hseen₁⟩

variable [Scalar R]

/-- Resolving a trace finds the outcome of its pending steps and leaves none. -/
theorem resolve_eq_ok (hu : u.Consults v) (ht : t.Sound u v) {bound : R} {o : Outcome} {t' : Trace R}
    (h : t.resolve (fun side => (u.side side).check) bound σ = .ok ((o, t'), σ')) :
    o = t.decided v ∧ σ'.course = σ.course ∧ t'.Sound u v ∧ t'.decided v = .open := by
  obtain ⟨⟨o₁, seen⟩, σ₁, hreplay, h⟩ := Run.bind_eq_ok.1 h
  obtain ⟨heq, rfl⟩ := Run.pure_eq_ok.1 h
  cases heq
  obtain ⟨σ₂, hinner, rfl⟩ := Run.withinBounds_eq_ok.1 hreplay
  have hsteps : ∀ side s, ⟨side, .deferred s⟩ ∈ t.pending.reverse →
      (u.side side).probabilistic = true := by
    intro side s hs
    exact ht.deferred side s (List.mem_reverse.1 hs)
  obtain ⟨rfl, hcourse, hseen⟩ := replay_eq_ok hu hsteps ht.verdicts hinner
  refine ⟨rfl, ?_, ⟨fun _ _ hs => (nomatch hs), hseen⟩, rfl⟩
  have hgenerator : σ₂.verifier.generator = σ.verifier.generator := congrArg Prod.snd hcourse
  show (σ.verifier.params, σ₂.verifier.generator) = σ.course
  rw [hgenerator]
  rfl

end Trace

end SimCheck
