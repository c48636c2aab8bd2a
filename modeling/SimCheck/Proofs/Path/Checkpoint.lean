import SimCheck.Scalar.Exact
import SimCheck.Proofs.Halting
import SimCheck.Proofs.Path.Deferral

/-!
# Checkpoints end a decided walk

A walk does not notice that a deferred check would decide its path before it resolves the pending
steps.  It does so at checkpoints, and the next one is never beyond the first one and beyond twice the
length of the walk.

* `Walk.advance_haltsOnly`: passing a state needs no fuel;
* `Walk.Decides`: a state contributes a step that decides the path;
* `Walk.visit_pending`: the pending steps of a walk that goes on all wait for a check, so that a
  checkpoint is not passed over once one of them decides;
* `Walk.advance_cases`: what passing one state can do to the length and to the checkpoint;
* `Walk.run_of_decided`, `walk_length_le_of_decides`: the walk ends in time;
* `Treadmill`: a walk that would not end otherwise.
-/

namespace SimCheck

open Run (HaltsOnly)

variable {R G : Type} {u : UntilCheck R G} {H : Halt R → Prop}

/-! ### Fuel -/

/-- The checks of both sides halt only as `H` says. -/
def UntilCheck.HaltsOnly (u : UntilCheck R G) (H : Halt R → Prop) : Prop :=
  ∀ side s, Run.HaltsOnly H ((u.side side).check s)

/-- Passing one state halts at what the model and the checks of the sides halt at. -/
theorem Walk.advance_haltsOnly [Scalar R] {model : Model R G} {origin : R} (hu : u.HaltsOnly H)
    (hmodel : ∀ s g f, model s g = .error f → H (.fault f)) (w : Walk R) :
    Run.HaltsOnly H (advance model u origin w) := by
  have hsides : u.Related (fun _ _ x _ => Run.HaltsOnly H x) u := ⟨rfl, rfl, rfl, fun _ => rfl, hu⟩
  refine (HaltsOnly.stepCongruence hmodel).advance hsides (fun hk => ?_) (fun side _ => hu side) origin w
  exact HaltsOnly.params.bind fun p => hk p p rfl

/-! ### Pending steps -/

variable {v : Side → State R → Bool}

namespace Trace

variable {t : Trace R}

/-- All pending steps wait for a check. -/
def AllDeferred (t : Trace R) : Prop := ∀ step ∈ t.pending, step.isDeferred = true

theorem AllDeferred.push (ht : t.AllDeferred) {step : Step R} (hstep : step.isFinal = false) :
    (t.push step).AllDeferred := by
  unfold Trace.push
  by_cases hdeferred : step.isDeferred = true
  · rw [hdeferred, Bool.or_true, if_pos rfl]
    exact List.forall_mem_cons.2 ⟨hdeferred, ht⟩
  · simpa [hstep, hdeferred] using ht

/-- What decides the path waits for a check. -/
theorem AllDeferred.hasDeferred (ht : t.AllDeferred) (h : t.decided v ≠ .open) :
    t.hasDeferred = true := by
  obtain ⟨pending, verdicts, budget⟩ := t
  cases pending with
  | nil => exact absurd rfl h
  | cons step steps =>
    have hstep : step.isDeferred = true := ht step (List.mem_cons_self ..)
    simp [Trace.hasDeferred, hstep]

end Trace

theorem UntilCheck.record_allDeferred {side : Side} {s : State R} {t t' : Trace R} {final : Bool}
    {σ σ' : Session R G Unit} (h : u.record side s t σ = .ok ((t', final), σ')) (ht : t.AllDeferred)
    (hfinal : final = false) : t'.AllDeferred := by
  obtain ⟨step, σ₁, -, h⟩ := Run.bind_eq_ok.1 h
  obtain ⟨heq, rfl⟩ := Run.pure_eq_ok.1 h
  cases heq
  exact ht.push hfinal

theorem Outcome.orElse_ne_open {a b : Outcome} : a.orElse b ≠ .open ↔ a ≠ .open ∨ b ≠ .open := by
  cases a <;> cases b <;> decide

namespace Walk

variable [Scalar R] {model : Model R G} {origin : R}

/-- The state that a walk enters contributes a step that decides the path, where sides have the truth
values `v` and the transition out of the state is drawn from `g`. -/
def Decides (model : Model R G) (u : UntilCheck R G) (v : Side → State R → Bool) (elapsed : R)
    (s : State R) (g : G) : Prop :=
  v .pre s = false ∨ v .post s = true ∧ (u.lower ≤ elapsed ∨
    ∃ t g', model s g = .ok (t, g') ∧ u.lower < elapsed + t.dwell)

/-- What a visit leaves in the trace: steps that wait for a check, unless one decides at once, and one
that decides the path if the state contributes it. -/
theorem visit_pending (hu : u.Consults v) {elapsed : R} {s : State R} {t : Trace R}
    (ht : t.Sound u v) {visited : Visit R} {σ σ' : Session R G Unit}
    (h : visit model u elapsed s t σ = .ok (visited, σ')) :
    (t.AllDeferred → visited.decided = false → visited.trace.AllDeferred) ∧
      (Decides model u v elapsed s σ.verifier.generator → visited.trace.decided v ≠ .open) := by
  unfold visit at h
  rcases Run.ite_eq_ok.1 h with ⟨-, h⟩ | ⟨hbefore, h⟩
  · obtain ⟨⟨t₁, final₁⟩, σ₁, hpost, h⟩ := Run.bind_eq_ok.1 h
    obtain ⟨hdecided₁, ht₁, -, hfinal₁, -⟩ := UntilCheck.record_eq_ok hu ht hpost
    rcases Run.ite_eq_ok.1 h with ⟨hfinal, h⟩ | ⟨hfinal, h⟩
    · obtain ⟨rfl, rfl⟩ := Run.pure_eq_ok.1 h
      refine ⟨fun _ h => (nomatch h), fun _ => ?_⟩
      rw [hdecided₁]
      exact Outcome.orElse_ne_open.2 (.inr (hfinal₁ hfinal))
    · obtain ⟨⟨t₂, final₂⟩, σ₂, hpre, h⟩ := Run.bind_eq_ok.1 h
      obtain ⟨rfl, rfl⟩ := Run.pure_eq_ok.1 h
      refine ⟨fun ht hopen => ?_, fun hdecides => ?_⟩
      · have hdeferred := UntilCheck.record_allDeferred hpost ht (eq_false_of_ne_true hfinal)
        exact UntilCheck.record_allDeferred hpre hdeferred hopen
      · rw [(UntilCheck.record_eq_ok hu ht₁ hpre).1, hdecided₁, Outcome.orElse_ne_open,
          Outcome.orElse_ne_open]
        rcases hdecides with hpre | ⟨hpost, -⟩
        · simp [hpre, Side.outcome]
        · simp [hpost, Side.outcome]
  · obtain ⟨⟨t₁, final₁⟩, σ₁, hpre, h⟩ := Run.bind_eq_ok.1 h
    obtain ⟨hdecided₁, ht₁, hcourse, hfinal₁, -⟩ := UntilCheck.record_eq_ok hu ht hpre
    rcases Run.ite_eq_ok.1 h with ⟨hfinal, h⟩ | ⟨hfinal, h⟩
    · obtain ⟨rfl, rfl⟩ := Run.pure_eq_ok.1 h
      refine ⟨fun _ h => (nomatch h), fun _ => ?_⟩
      rw [hdecided₁]
      exact Outcome.orElse_ne_open.2 (.inr (hfinal₁ hfinal))
    · obtain ⟨drawn, σ₂, hdrawn, h⟩ := Run.bind_eq_ok.1 h
      have hdeferred (ht : t.AllDeferred) : t₁.AllDeferred :=
        UntilCheck.record_allDeferred hpre ht (eq_false_of_ne_true hfinal)
      rcases Run.ite_eq_ok.1 h with ⟨-, h⟩ | ⟨hcloses, h⟩
      · obtain ⟨⟨t₂, final₂⟩, σ₃, hpost, h⟩ := Run.bind_eq_ok.1 h
        obtain ⟨rfl, rfl⟩ := Run.pure_eq_ok.1 h
        refine ⟨fun ht => UntilCheck.record_allDeferred hpost (hdeferred ht), fun hdecides => ?_⟩
        rw [(UntilCheck.record_eq_ok hu ht₁ hpost).1, hdecided₁, Outcome.orElse_ne_open,
          Outcome.orElse_ne_open]
        rcases hdecides with hpre | ⟨hpost, -⟩
        · simp [hpre, Side.outcome]
        · simp [hpost, Side.outcome]
      · obtain ⟨rfl, rfl⟩ := Run.pure_eq_ok.1 h
        refine ⟨fun ht _ => hdeferred ht, fun hdecides => ?_⟩
        rw [hdecided₁, Outcome.orElse_ne_open]
        rcases hdecides with hpre | ⟨-, hinside | ⟨t, g', ht, hopens⟩⟩
        · simp [hpre, Side.outcome]
        · exact absurd hinside hbefore
        · -- The transition that opens the window is the one that has been drawn.
          obtain ⟨g, hmodel, -⟩ := Run.transition_eq_ok.1 hdrawn
          have hgenerator : σ₁.verifier.generator = σ.verifier.generator := congrArg Prod.snd hcourse
          rw [hgenerator, ht] at hmodel
          cases hmodel
          exact absurd hopens hcloses

/-! ### One state -/

variable {w : Walk R} {p : Progress R} {σ σ' : Session R G Unit}

/-- A walk whose pending steps are in order. -/
structure Sound (u : UntilCheck R G) (v : Side → State R → Bool) (w : Walk R) : Prop where
  trace : w.trace.Sound u v
  deferred : w.trace.AllDeferred

omit [Scalar R] in
theorem start_sound (s : State R) (budget : R) : (start s budget).Sound u v :=
  ⟨Trace.start_sound budget, fun _ h => (nomatch h)⟩

/-- Beyond a state the walk ends with at most one more transition, or it takes one and goes on. -/
def Leaves (w : Walk R) (p : Progress R) : Prop :=
  (∃ e, p = .ended e ∧ e.length ≤ w.length + 1) ∨ ∃ s, p = .ongoing (w.next s)

/-- What passing one state can do, where the trace is `t` after the visit: the walk ends there; it
leaves a state where the pending steps need not be resolved yet; or it leaves a state where they have
been resolved and left the path open. -/
inductive Advances (u : UntilCheck R G) (v : Side → State R → Bool) (w : Walk R) (t : Trace R)
    (p : Progress R) : Prop
  | ended (e : PathEnd) (he : p = .ended e) (h : e.length ≤ w.length)
  | passed (hpass : t.hasDeferred = true → w.length < w.checkpoint)
    (hsound : Sound u v { w with trace := t }) (h : Leaves { w with trace := t } p)
  | resolved (t' : Trace R) (hcheckpoint : w.checkpoint ≤ w.length) (hopen : t.decided v = .open)
    (hsound : Sound u v { w with checkpoint := 2 * w.checkpoint, trace := t' })
    (h : Leaves { w with checkpoint := 2 * w.checkpoint, trace := t' } p)

theorem finish_leaves {length : Nat} {cutOff : Bool} (hlength : length ≤ w.length + 1)
    (h : finish u w.trace length cutOff σ = .ok (p, σ')) : Leaves w p := by
  obtain ⟨r, σ₁, -, h⟩ := Run.bind_eq_ok.1 h
  obtain ⟨rfl, rfl⟩ := Run.pure_eq_ok.1 h
  exact .inl ⟨_, rfl, hlength⟩

theorem leave_leaves {t : Transition R} (h : leave u origin w t σ = .ok (p, σ')) : Leaves w p := by
  rcases Run.ite_eq_ok.1 h with ⟨-, h⟩ | ⟨-, h⟩
  · exact finish_leaves (Nat.le_succ _) h
  · rcases Run.ite_eq_ok.1 h with ⟨-, h⟩ | ⟨-, h⟩
    · exact finish_leaves le_rfl h
    · obtain ⟨rfl, rfl⟩ := Run.pure_eq_ok.1 h
      exact .inr ⟨_, rfl⟩

theorem goOn_leaves {drawn : Option (Transition R)}
    (h : goOn model u origin w drawn σ = .ok (p, σ')) : Leaves w p := by
  obtain ⟨params, σ₁, -, h⟩ := Run.bind_eq_ok.1 h
  rcases Run.ite_eq_ok.1 h with ⟨-, h⟩ | ⟨-, h⟩
  · exact finish_leaves (Nat.le_succ _) h
  · cases drawn with
    | some t => exact leave_leaves h
    | none =>
      obtain ⟨t, σ₂, -, h⟩ := Run.bind_eq_ok.1 h
      exact leave_leaves h

/-- No step is pending when they have been resolved. -/
theorem resolvePrefix_allDeferred {t t' : Trace R} {length : Nat} {o : Outcome}
    (h : resolvePrefix u t length σ = .ok ((o, t'), σ')) : t'.AllDeferred := by
  obtain ⟨_, σ₁, -, h⟩ := Run.bind_eq_ok.1 h
  obtain ⟨r, σ₂, -, h⟩ := Run.bind_eq_ok.1 h
  obtain ⟨heq, rfl⟩ := Run.pure_eq_ok.1 h
  cases heq
  exact fun _ h => (nomatch h)

theorem advance_cases (hu : u.Consults v) (hw : w.Sound u v)
    (h : advance model u origin w σ = .ok (p, σ')) :
    ∃ visited σ₁, visit model u (w.state.time - origin) w.state w.trace σ = .ok (visited, σ₁) ∧
      Advances u v w visited.trace p := by
  obtain ⟨visited, σ₁, hvisited, h⟩ := Run.bind_eq_ok.1 h
  refine ⟨visited, σ₁, hvisited, ?_⟩
  obtain ⟨o, hvisit⟩ := visit_simulates hu hw.trace hvisited
  have hpending := (visit_pending hu hw.trace hvisited).1 hw.deferred
  rcases Run.ite_eq_ok.1 h with ⟨-, h⟩ | ⟨hopen, h⟩
  · obtain ⟨r, σ₂, -, h⟩ := Run.bind_eq_ok.1 h
    obtain ⟨rfl, rfl⟩ := Run.pure_eq_ok.1 h
    exact .ended _ rfl le_rfl
  rcases Run.ite_eq_ok.1 h with ⟨hcheckpoint, h⟩ | ⟨hpass, h⟩
  · obtain ⟨⟨o', t'⟩, σ₂, hresolve, h⟩ := Run.bind_eq_ok.1 h
    obtain ⟨rfl, -, hsound, -⟩ := resolvePrefix_eq_ok hu hvisit.sound hresolve
    obtain ⟨hle, -⟩ := Bool.and_eq_true_iff.1 hcheckpoint
    cases ho : visited.trace.decided v with
    | «open» =>
      rw [ho] at h
      exact .resolved t' (of_decide_eq_true hle) ho ⟨hsound, resolvePrefix_allDeferred hresolve⟩
        (goOn_leaves h)
    | satisfied =>
      rw [ho] at h
      obtain ⟨rfl, rfl⟩ := Run.pure_eq_ok.1 h
      exact .ended _ rfl le_rfl
    | violated =>
      rw [ho] at h
      obtain ⟨rfl, rfl⟩ := Run.pure_eq_ok.1 h
      exact .ended _ rfl le_rfl
  · refine .passed (fun hdeferred => ?_) ⟨hvisit.sound, hpending (eq_false_of_ne_true hopen)⟩
      (goOn_leaves h)
    simpa [hdeferred] using hpass

/-- A walk that goes on has its next checkpoint within twice its length, if that was so before. -/
theorem advance_ongoing (hu : u.Consults v) (hw : w.Sound u v) {w' : Walk R}
    (hcheckpoint : w.checkpoint ≤ max firstCheckpoint (2 * w.length))
    (h : advance model u origin w σ = .ok (.ongoing w', σ')) :
    w'.Sound u v ∧ w'.length = w.length + 1 ∧
      w'.checkpoint ≤ max firstCheckpoint (2 * w'.length) := by
  obtain ⟨visited, σ₁, -, hadvance⟩ := advance_cases hu hw h
  cases hadvance with
  | ended e he => cases he
  | passed _ hsound h =>
    obtain ⟨e, he, -⟩ | ⟨s, hs⟩ := h
    · cases he
    · cases hs
      refine ⟨⟨hsound.trace, hsound.deferred⟩, rfl, ?_⟩
      simp only [next]
      omega
  | resolved t' hle _ hsound h =>
    obtain ⟨e, he, -⟩ | ⟨s, hs⟩ := h
    · cases he
    · cases hs
      refine ⟨⟨hsound.trace, hsound.deferred⟩, rfl, ?_⟩
      simp only [next]
      omega

/-- A walk whose path has been decided ends before its next checkpoint or there. -/
theorem advance_of_decided (hu : u.Consults v) (hw : w.Sound u v) {bound : Nat}
    (hlength : w.length ≤ bound) (hcheckpoint : w.checkpoint ≤ bound)
    (hdecided : ∀ visited σ₁,
      visit model u (w.state.time - origin) w.state w.trace σ = .ok (visited, σ₁) →
        visited.trace.decided v ≠ .open)
    (h : advance model u origin w σ = .ok (p, σ')) :
    (∃ e, p = .ended e ∧ e.length ≤ bound) ∨
      ∃ w', p = .ongoing w' ∧ w'.Sound u v ∧ w'.length = w.length + 1 ∧ w'.length ≤ bound ∧
        w'.checkpoint ≤ bound ∧ w'.trace.decided v ≠ .open := by
  obtain ⟨visited, σ₁, hvisited, hadvance⟩ := advance_cases hu hw h
  have hne := hdecided visited σ₁ hvisited
  cases hadvance with
  | ended e he h => exact .inl ⟨e, he, h.trans hlength⟩
  | resolved t' _ hopen => exact absurd hopen hne
  | passed hpass hsound h =>
    have hlt := hpass (hsound.deferred.hasDeferred hne)
    obtain ⟨e, rfl, he⟩ | ⟨s, rfl⟩ := h
    · exact .inl ⟨e, rfl, he.trans (hlt.trans_le hcheckpoint)⟩
    · exact .inr ⟨_, rfl, ⟨hsound.trace, hsound.deferred⟩, rfl, hlt.trans_le hcheckpoint,
        hcheckpoint, hne⟩

/-! ### The whole path -/

/-- **A walk whose path has been decided ends within any bound on its next checkpoint**, unless it halts
as the model and the checks of its sides do. -/
theorem run_of_decided (hu : u.Consults v) (hhalts : u.HaltsOnly H)
    (hmodel : ∀ s g f, model s g = .error f → H (.fault f)) (hw : w.Sound u v) {bound : Nat}
    (hlength : w.length ≤ bound) (hcheckpoint : w.checkpoint ≤ bound)
    (hdecided : ∀ visited σ₁,
      visit model u (w.state.time - origin) w.state w.trace σ = .ok (visited, σ₁) →
        visited.trace.decided v ≠ .open) {fuel : Nat} (hfuel : bound < fuel + w.length) :
    (∃ e σ', run model u origin fuel w σ = .ok (e, σ') ∧ e.length ≤ bound) ∨
      ∃ h, run model u origin fuel w σ = .error h ∧ H h := by
  -- With each state that is passed the length comes closer to the bound.
  induction fuel generalizing w σ with
  | zero => omega
  | succ fuel ih =>
    rw [run]
    cases hadvance : advance model u origin w σ with
    | error h =>
      exact .inr ⟨h, Run.bind_eq_error.2 (.inl hadvance),
        advance_haltsOnly hhalts hmodel w σ h hadvance⟩
    | ok r =>
      obtain ⟨p, σ₁⟩ := r
      rw [Run.bind_of_ok hadvance]
      obtain ⟨e, rfl, he⟩ | ⟨w', rfl, hw', hlength', hle, hcheckpoint', hne⟩ :=
        advance_of_decided hu hw hlength hcheckpoint hdecided hadvance
      · exact .inl ⟨e, σ₁, rfl, he⟩
      · refine ih hw' hle hcheckpoint' (fun visited σ₂ hvisited => ?_) (by omega)
        obtain ⟨o, hvisit⟩ := visit_simulates hu hw'.trace hvisited
        rw [hvisit.decided]
        exact Outcome.orElse_ne_open.2 (.inl hne)

/-- The walk goes on for a number of states. -/
inductive Reaches (model : Model R G) (u : UntilCheck R G) (origin : R) (w : Walk R)
    (σ : Session R G Unit) : Nat → Walk R → Session R G Unit → Prop
  | start : Reaches model u origin w σ 0 w σ
  | step {i : Nat} {w₁ w₂ : Walk R} {σ₁ σ₂ : Session R G Unit} (h : Reaches model u origin w σ i w₁ σ₁)
    (hadvance : advance model u origin w₁ σ₁ = .ok (.ongoing w₂, σ₂)) :
    Reaches model u origin w σ (i + 1) w₂ σ₂

variable {i : Nat} {w₁ : Walk R} {σ₁ : Session R G Unit}

/-- The fuel that is left. -/
theorem Reaches.run_eq (h : Reaches model u origin w σ i w₁ σ₁) (fuel : Nat) :
    run model u origin (fuel + i) w σ = run model u origin fuel w₁ σ₁ := by
  induction h generalizing fuel with
  | start => rfl
  | @step i w₁ w₂ σ₁ σ₂ _ hadvance ih =>
    rw [← Nat.add_assoc, Nat.add_right_comm, ih, run, Run.bind_of_ok hadvance]

/-- The pending steps stay in order, and the next checkpoint within twice the length. -/
theorem Reaches.sound (hu : u.Consults v) {s : State R} {budget : R}
    (h : Reaches model u origin (.start s budget) σ i w₁ σ₁) :
    w₁.Sound u v ∧ w₁.length = i ∧ w₁.checkpoint ≤ max firstCheckpoint (2 * w₁.length) := by
  induction h with
  | start => exact ⟨start_sound s budget, rfl, le_max_left ..⟩
  | step _ hadvance ih =>
    obtain ⟨hw, hlength, hcheckpoint⟩ := ih
    obtain ⟨hw', hlength', hcheckpoint'⟩ := advance_ongoing hu hw hcheckpoint hadvance
    exact ⟨hw', by rw [hlength', hlength], hcheckpoint'⟩

end Walk

/-! ### Oracles -/

variable [Scalar R] [Distributions R]

/-- The model faults somewhere, or the check of a side without thresholds does. -/
def PathProperty.Faults (path : PathProperty R) (sim : Simulator R G) (f : Fault R) : Prop :=
  (∃ s g, sim.model s g = .error f) ∨ ∃ side s, ∃ σ : Session R G Unit,
    (path.side side).isProbabilistic = false ∧
      check sim (.simulating R) (path.side side) s σ = .error (.fault f)

/-- A side that is asked answers, and one without thresholds may fault. -/
theorem PathProperty.asking_haltsOnly (path : PathProperty R) (sim : Simulator R G)
    {ask : Side → State R → Run R (Session R G Unit) Bool}
    (hask : ∀ side s σ, ∃ r, ask side s σ = .ok r) :
    (path.asking sim ask).HaltsOnly fun h => ∃ f, h = .fault f ∧ path.Faults sim f := by
  intro side s σ h hσ
  by_cases hp : (path.side side).isProbabilistic = true
  · have hcheck : ((path.asking sim ask).side side).check s = ask side s := by
      cases side <;> exact congrFun (if_pos hp) s
    obtain ⟨r, hr⟩ := hask side s σ
    rw [hcheck, hr] at hσ
    cases hσ
  · have hcheck : ((path.asking sim ask).side side).check s
        = check sim (.simulating R) (path.side side) s := by
      cases side <;> exact congrFun (if_neg hp) s
    rw [hcheck] at hσ
    have hfree := eq_false_of_ne_true hp
    obtain ⟨f, rfl⟩ := check_haltsOnly sim _ s _ hfree σ h hσ
    exact ⟨f, rfl, .inr ⟨side, s, σ, hfree, hσ⟩⟩

/-- **A deferred check that decides the path ends the walk in time.**  If the sides with thresholds are
answered by an oracle that looks at the values of a state, and the state that a walk reaches after `i`
transitions contributes a step that decides the path, then the walk ends after at most `max 64 (2 * i)`
transitions, whatever comes after that state; unless it halts at a fault, of the model or of the check
of a side without thresholds. -/
theorem walk_length_le_of_decides (sim : Simulator R G) (path : PathProperty R)
    (ask : Side → State R → Run R (Session R G Unit) Bool) (oracle : Side → Valuation → Bool)
    (hask : ∀ side s σ, ∃ σ',
      ask side s σ = .ok (oracle side s.values, σ') ∧ σ'.course = σ.course)
    (origin budget : R) (start : State R) {σ σ₁ : Session R G Unit} {i : Nat} {w : Walk R}
    (hreaches : Walk.Reaches sim.model (path.asking sim ask) origin (.start start budget) σ i w σ₁)
    (hdecides : Walk.Decides sim.model (path.asking sim ask)
      (fun side s => if (path.side side).isProbabilistic then oracle side s.values
        else (path.side side).isTrue s)
      (w.state.time - origin) w.state σ₁.verifier.generator)
    {fuel : Nat} (hfuel : max 64 (2 * i) < fuel) :
    (∃ e σ', Walk.run sim.model (path.asking sim ask) origin fuel (.start start budget) σ
      = .ok (e, σ') ∧ e.length ≤ max 64 (2 * i)) ∨
      ∃ f, Walk.run sim.model (path.asking sim ask) origin fuel (.start start budget) σ
        = .error (.fault f) ∧ path.Faults sim f := by
  have hu := path.asking_consults sim hask
  have hhalts := path.asking_haltsOnly sim fun side s σ =>
    let ⟨σ', h⟩ := hask side s σ
    ⟨_, h.1⟩
  obtain ⟨hw, rfl, hcheckpoint⟩ := hreaches.sound hu
  obtain ⟨spare, rfl⟩ : ∃ spare, fuel = spare + w.length := ⟨fuel - w.length, by omega⟩
  rw [hreaches.run_eq]
  have hdecided (visited : Visit R) (σ₂ : Session R G Unit)
      (hvisited : Walk.visit sim.model (path.asking sim ask) (w.state.time - origin) w.state w.trace σ₁
        = .ok (visited, σ₂)) := (Walk.visit_pending hu hw.trace hvisited).2 hdecides
  obtain hends | ⟨h, herror, f, rfl, hf⟩ := Walk.run_of_decided hu hhalts
    (fun s g f hf => ⟨f, rfl, .inl ⟨s, g, hf⟩⟩) hw (by omega) hcheckpoint hdecided hfuel
  · exact .inl hends
  · exact .inr ⟨f, herror, hf⟩

/-! ### A walk that would not end otherwise -/

namespace Treadmill

noncomputable abbrev distributions : Distributions EReal := ⟨fun _ _ _ => 0, fun _ _ => 0⟩

/-- Time passes, and a counter goes up. -/
noncomputable def simulator : Simulator EReal Unit where
  model s := pure ⟨s.values.map (· + 1), 1⟩
  fuel := 81

noncomputable def threshold : Property EReal :=
  .threshold .above 0 (.unbounded ⟨1⟩ (.expr (.constant true)) (.expr (.constant true)))

noncomputable def path : PathProperty EReal := .unbounded ⟨0⟩ threshold threshold

/-- The left side always holds, and the right side when the counter is at `40`. -/
def oracle : Side → Valuation → Bool
  | .pre, _ => true
  | .post, values => values == [40]

noncomputable def ask (side : Side) (s : State EReal) :
    Run EReal (Session EReal Unit Unit) Bool := pure (oracle side s.values)

noncomputable def sides : UntilCheck EReal Unit :=
  let _ := distributions
  path.asking simulator ask

noncomputable def session : Session EReal Unit Unit := ⟨⟨.default, (), ∅, ∅, 0, []⟩, ()⟩

/-- The state after some transitions. -/
noncomputable def state (i : Nat) : State EReal := ⟨[Int64.ofNat i], (i : ℝ)⟩

/-- The transition out of it. -/
noncomputable def transition (i : Nat) : Transition EReal := ⟨(state i).values.map (· + 1), 1⟩

theorem successor_state (i : Nat) : (state i).successor (transition i) = state (i + 1) := by
  have hvalues : Int64.ofNat i + 1 = Int64.ofNat (i + 1) := (Int64.ofNat_add i 1).symm
  have htime : (((i : ℝ) : EReal) + 1) = ((i + 1 : Nat) : ℝ) := by
    rw [Nat.cast_succ, EReal.coe_add, EReal.coe_one]
  show (⟨[Int64.ofNat i + 1], ((i : ℝ) : EReal) + 1⟩ : State EReal) = _
  rw [hvalues, htime, state]

/-- The window is always open. -/
theorem opened (i : Nat) : sides.lower ≤ (state i).time - 0 := by
  rw [sub_zero]
  exact EReal.coe_nonneg.2 (Nat.cast_nonneg i)

/-- Before the first checkpoint a walk goes on, whatever it has recorded. -/
theorem advance_state {i : Nat} (hi : i < 64) (t : Trace EReal) :
    ∃ t', Walk.advance simulator.model sides 0 ⟨state i, i, 64, t⟩ session
      = .ok (.ongoing ⟨state (i + 1), i + 1, 64, t'⟩, session) := by
  let t' := (t.push ⟨.post, .deferred (state i)⟩).push ⟨.pre, .deferred (state i)⟩
  have hvisit : Walk.visit simulator.model sides ((state i).time - 0) (state i) t session
      = .ok (⟨t', false, none⟩, session) := by
    unfold Walk.visit
    rw [if_pos (opened i)]
    rfl
  have hleave : Walk.leave sides 0 ⟨state i, i, 64, t'⟩ (transition i) session
      = .ok (.ongoing ⟨state (i + 1), i + 1, 64, t'⟩, session) := by
    have hmoves : ¬(transition i).isAbsorbing = true := by
      rw [Bool.not_eq_true]
      exact Exact.isInfinite_coe 1
    have hwithin : ¬sides.upper < ((state i).successor (transition i)).time - 0 := not_top_lt
    unfold Walk.leave
    rw [if_neg hmoves, if_neg hwithin, successor_state]
    rfl
  have hbefore : ¬(decide (64 ≤ i) && t'.hasDeferred) = true := by simp [hi]
  refine ⟨t', Run.bind_eq_ok.2 ⟨_, _, hvisit, ?_⟩⟩
  rw [if_neg Bool.false_ne_true, if_neg hbefore]
  exact hleave

theorem reaches_state {i : Nat} (hi : i ≤ 64) :
    ∃ t, Walk.Reaches simulator.model sides 0 (.start (state 0) 0) session i
      ⟨state i, i, 64, t⟩ session := by
  induction i with
  | zero => exact ⟨_, .start⟩
  | succ i ih =>
    obtain ⟨t, ht⟩ := ih (Nat.le_of_succ_le hi)
    obtain ⟨t', hadvance⟩ := advance_state hi t
    exact ⟨t', ht.step hadvance⟩

/-- The right side holds after `40` transitions, and the walk notices that within `80`. -/
theorem walk_length_le_of_decides_treadmill :
    let _ := distributions
    oracle .post (state 40).values = true ∧
      ∃ t, Walk.Reaches simulator.model (path.asking simulator ask) 0 (.start (state 0) 0) session 40
          ⟨state 40, 40, 64, t⟩ session ∧
        ∃ e σ', Walk.run simulator.model (path.asking simulator ask) 0 81 (.start (state 0) 0) session
          = .ok (e, σ') ∧ e.length ≤ 80 := by
  intro _
  obtain ⟨t, hreaches⟩ := reaches_state (i := 40) (by decide)
  have hholds : oracle .post (state 40).values = true := rfl
  obtain hends | ⟨f, -, ⟨s, g, hf⟩ | ⟨side, s, σ, hfree, -⟩⟩ :=
    walk_length_le_of_decides simulator path ask oracle (fun _ _ σ => ⟨σ, rfl, rfl⟩) 0 0
      (state 0) hreaches (.inr ⟨hholds, .inl (opened 40)⟩) (show max 64 (2 * 40) < 81 by decide)
  · exact ⟨hholds, t, hreaches, hends⟩
  · cases hf
  · cases side <;> cases hfree

end Treadmill
end SimCheck
