import SimCheck.Proofs.Free
import SimCheck.Proofs.Path.Checkpoint

/-!
# What a cutoff can change

A verification with a largest length of paths counts the paths that it has cut off before a step
decided them.  If it has counted none, the largest length has made no difference: a larger one, or
none at all, leads through the same transitions to the same verdict.

The paths are those whose sides contain no thresholds.  Nothing is ever pending on such a path, so
that one that is cut off is open, and is counted.

* `Run.Overlooks`: a run from a session in which nothing is cut off is one from the session with
  another largest length, unless its value says that a path has been cut off;
* `Walk.goOn_overlooks`: where the largest length is looked at;
* `simulate_overlooks`: the path that is cut off is counted;
* `check_overlooks`, `verify_of_not_truncated`: whole checks, and calls;
* `Shortcut`: a path that ends before it is cut off.
-/

namespace SimCheck

variable {R G S : Type}

/-- The session with another largest length of paths, and with all else the same. -/
def Session.withCap (σ : Session R G S) (cap : Option ℕ) : Session R G S :=
  { σ with verifier.params.maxPathLength := cap }

/-- The number of paths that have been cut off without an outcome. -/
def Session.truncated (σ : Session R G S) : ℕ := σ.verifier.stats.truncatedPaths

/-! ### Runs -/

namespace Run

variable {α β : Type} {L : ℕ} {cap : Option ℕ}

/-- Where the largest length is `L`, the run leaves it so and does not take back what has been counted;
and if it counts no path, and its value is not one that hides a path cut off, it does the same where
the largest length is `cap`. -/
def Overlooks (L : ℕ) (cap : Option ℕ) (hides : α → Prop) (x : Run R (Session R G S) α) : Prop :=
  ∀ σ a τ, σ.verifier.params.maxPathLength = some L → x σ = .ok (a, τ) →
    τ.verifier.params.maxPathLength = some L ∧ σ.truncated ≤ τ.truncated ∧
      (τ.truncated = σ.truncated → ¬hides a → x (σ.withCap cap) = .ok (a, τ.withCap cap))

/-- No value of the run hides a path that has been cut off. -/
abbrev Ignores (L : ℕ) (cap : Option ℕ) (x : Run R (Session R G S) α) : Prop :=
  Overlooks L cap (fun _ => False) x

namespace Overlooks

variable {hides : α → Prop} {hides' : β → Prop} {x : Run R (Session R G S) α}
  {k : α → Run R (Session R G S) β}

theorem weaken (hx : Ignores L cap x) : Overlooks L cap hides x := by
  intro σ a τ hσ h
  obtain ⟨hτ, hle, hsame⟩ := hx σ a τ hσ h
  exact ⟨hτ, hle, fun heq _ => hsame heq id⟩

/-- What is hidden must stay so; the rest of the run is looked at for values that are returned. -/
theorem bind_of_returns (hx : Overlooks L cap hides x)
    (hk : ∀ a σ τ, x σ = .ok (a, τ) → Overlooks L cap hides' (k a))
    (hkeeps : ∀ a b σ τ, hides a → k a σ = .ok (b, τ) → hides' b) :
    Overlooks L cap hides' (x >>= k) := by
  intro σ b τ hσ h
  obtain ⟨a, σ₁, hx', hk'⟩ := bind_eq_ok.1 h
  obtain ⟨hσ₁, hle₁, hsame₁⟩ := hx σ a σ₁ hσ hx'
  obtain ⟨hτ, hle₂, hsame₂⟩ := hk a σ σ₁ hx' σ₁ b τ hσ₁ hk'
  refine ⟨hτ, hle₁.trans hle₂, fun heq hnot => bind_eq_ok.2 ⟨a, σ₁.withCap cap, ?_, ?_⟩⟩
  · exact hsame₁ (by omega) fun ha => hnot (hkeeps a b σ₁ τ ha hk')
  · exact hsame₂ (by omega) hnot

theorem bind (hx : Ignores L cap x) (hk : ∀ a, Overlooks L cap hides' (k a)) :
    Overlooks L cap hides' (x >>= k) :=
  hx.bind_of_returns (fun a _ _ _ => hk a) fun _ _ _ _ h => h.elim

theorem pure (a : α) : Overlooks L cap hides (Pure.pure a : Run R (Session R G S) α) := by
  intro σ b τ hσ h
  obtain ⟨rfl, rfl⟩ := pure_eq_ok.1 h
  exact ⟨hσ, le_rfl, fun _ _ => rfl⟩

theorem throw (e : Halt R) :
    Overlooks L cap hides (MonadExcept.throw e : Run R (Session R G S) α) :=
  fun _ _ _ _ h => (throw_ne_ok h).elim

theorem ite {c : Prop} [Decidable c] {y : Run R (Session R G S) α} (hx : Overlooks L cap hides x)
    (hy : Overlooks L cap hides y) : Overlooks L cap hides (if c then x else y) := by
  split_ifs
  · exact hx
  · exact hy

/-- A run without an effect that depends on nothing. -/
theorem of_settled {v : α} (hx : Settled x v) : Ignores L cap x := by
  intro σ a τ hσ h
  obtain ⟨rfl, rfl⟩ := hx.answers h
  exact ⟨hσ, le_rfl, fun _ _ => hx.eq_ok h _⟩

theorem ofExcept (e : Except (Fault R) α) :
    Ignores L cap (Run.ofExcept e : Run R (Session R G S) α) := by
  cases e with
  | ok a => exact pure a
  | error f => exact throw (.fault f)

/-- What is made of the parameters must not depend on the largest length. -/
theorem params_bind {k : Params R → Run R (Session R G S) β}
    (hsame : ∀ p : Params R, k { p with maxPathLength := cap } = k p)
    (hk : ∀ p, Overlooks L cap hides' (k p)) : Overlooks L cap hides' (Run.params >>= k) := by
  intro σ b τ hσ h
  obtain ⟨p, σ₁, hp, hk'⟩ := bind_eq_ok.1 h
  obtain ⟨rfl, rfl⟩ := params_eq_ok.1 hp
  obtain ⟨hτ, hle, hsame'⟩ := hk _ σ b τ hσ hk'
  refine ⟨hτ, hle, fun heq hnot => bind_eq_ok.2 ⟨_, _, params_eq_ok.2 ⟨rfl, rfl⟩, ?_⟩⟩
  exact (congrFun (hsame σ.verifier.params) _).trans (hsame' heq hnot)

theorem withinBounds (b : ErrorBounds R) (hx : Ignores L cap x) :
    Ignores L cap (Run.withinBounds b x) := by
  intro σ a τ hσ h
  obtain ⟨τ', hx', rfl⟩ := withinBounds_eq_ok.1 h
  obtain ⟨-, hle, hsame⟩ :=
    hx { σ with verifier.params := σ.verifier.params.withBounds b } a τ' hσ hx'
  exact ⟨hσ, hle, fun heq _ => withinBounds_eq_ok.2 ⟨τ'.withCap cap, hsame heq id, rfl⟩⟩

theorem nested (hx : Ignores L cap x) : Ignores L cap (Run.nested x) := by
  intro σ a τ hσ h
  obtain ⟨τ', hx', rfl⟩ := nested_eq_ok.1 h
  obtain ⟨hτ, hle, hsame⟩ :=
    hx { σ with verifier.level := σ.verifier.level + 1 } a τ' hσ hx'
  exact ⟨hτ, hle, fun heq _ => nested_eq_ok.2 ⟨τ'.withCap cap, hsame heq id, rfl⟩⟩

theorem transition (model : Model R G) (s : State R) :
    Ignores L cap (Run.transition model s : Run R (Session R G S) (Transition R)) := by
  intro σ t τ hσ h
  obtain ⟨g, hmodel, rfl⟩ := transition_eq_ok.1 h
  exact ⟨hσ, le_rfl, fun _ _ => transition_eq_ok.2 ⟨g, hmodel, rfl⟩⟩

theorem report (e : Event R) : Ignores L cap (Run.report e : Run R (Session R G S) Unit) := by
  intro σ a τ hσ h
  cases h
  exact ⟨hσ, le_rfl, fun _ _ => rfl⟩

theorem locally {x : Run R (Session R G Unit) α} (hx : Ignores L cap x) :
    Ignores L cap (Run.locally x : Run R (Session R G S) α) := by
  intro σ a τ hσ h
  obtain ⟨τ', hx', rfl⟩ := locally_eq_ok.1 h
  obtain ⟨hτ, hle, hsame⟩ := hx _ a τ' hσ hx'
  exact ⟨hτ, hle, fun heq _ => locally_eq_ok.2 ⟨_, hsame heq id, rfl⟩⟩

/-- Connectives ignore what their operands ignore. -/
theorem congruence (L : ℕ) (cap : Option ℕ) :
    Verdict.Congruence fun (α : Type) (x _ : Run R (Session R G S) α) => Ignores L cap x where
  pure := pure
  bind hx hk := hx.bind hk
  bounds := params_bind (fun _ => rfl) fun p => pure p.bounds
  within b hx := hx.withinBounds b

/-- So do loops over observations what the paths ignore. -/
theorem basicCongruence (L : ℕ) (cap : Option ℕ) :
    Run.BasicCongruence fun (S α : Type) (x _ : Run R (Session R G S) α) => Ignores L cap x where
  pure := pure
  bind hx hk := hx.bind hk
  outOfFuel := throw .outOfFuel
  locally hx := hx.locally
  readSource hk := fun σ a τ hσ h => hk σ.source σ a τ hσ h
  changeSource f := by
    intro σ a τ hσ h
    cases h
    exact ⟨hσ, le_rfl, fun _ _ => rfl⟩

/-- So does what a path does in a state, apart from looking at the largest length. -/
theorem stepCongruence (L : ℕ) (cap : Option ℕ) (model : Model R G) :
    Run.StepCongruence (fun _ _ x _ => Ignores L cap x) (fun _ _ x _ => Ignores L cap x) model model where
  pure := pure
  bind hx hk := hx.bind hk
  within b hx := hx.withinBounds b
  report _ _ _ := report _
  transition := transition model
  replays := ⟨pure, fun hx hk => hx.bind hk⟩

end Overlooks

end Run

open Run (Overlooks Ignores)

/-! ### Paths -/

variable {u : UntilCheck R G} {L : ℕ} {cap : Option ℕ} {σ τ : Session R G Unit}

/-- Neither side contains a threshold, and their checks ignore the largest length. -/
structure UntilCheck.Plain (u : UntilCheck R G) (L : ℕ) (cap : Option ℕ) : Prop where
  known : ∀ side, (u.side side).probabilistic = false
  check : ∀ side s, Ignores L cap ((u.side side).check s)

namespace UntilCheck

variable {side : Side} {s : State R} {t : Trace R}

theorem Plain.related (hu : u.Plain L cap) : u.Related (fun _ _ x _ => Ignores L cap x) u :=
  ⟨rfl, rfl, rfl, fun _ => rfl, hu.check⟩

/-- A step that does not decide the path is not kept. -/
theorem record_pending (hu : u.Plain L cap) {r : Trace R × Bool}
    (h : u.record side s t σ = .ok (r, τ)) (ht : t.pending = []) (hfinal : r.2 = false) :
    r.1.pending = [] := by
  obtain ⟨step, σ₁, hstep, h⟩ := Run.bind_eq_ok.1 h
  obtain ⟨rfl, -⟩ := Run.pure_eq_ok.1 h
  unfold observe at hstep
  rw [hu.known side, if_neg Bool.false_ne_true] at hstep
  obtain ⟨holds, σ₂, -, hstep⟩ := Run.bind_eq_ok.1 hstep
  obtain ⟨rfl, -⟩ := Run.pure_eq_ok.1 hstep
  have hfinal' : (⟨side, .known holds⟩ : Step R).isFinal = false := hfinal
  simp [Trace.push, hfinal', Step.isDeferred, ht]

end UntilCheck

namespace Walk

variable [Scalar R] {model : Model R G} {origin : R} {w : Walk R}

/-- Nothing is pending when a visit has left the path open. -/
theorem visit_pending_eq_nil (hu : u.Plain L cap) {elapsed : R} {s : State R} {t : Trace R}
    {v : Visit R} (h : visit model u elapsed s t σ = .ok (v, τ)) (ht : t.pending = [])
    (hdecided : v.decided = false) : v.trace.pending = [] := by
  unfold visit at h
  rcases Run.ite_eq_ok.1 h with ⟨-, h⟩ | ⟨-, h⟩
  · obtain ⟨r, σ₁, hpost, h⟩ := Run.bind_eq_ok.1 h
    rcases Run.ite_eq_ok.1 h with ⟨-, h⟩ | ⟨hfinal, h⟩
    · obtain ⟨rfl, -⟩ := Run.pure_eq_ok.1 h
      cases hdecided
    · have hpending := UntilCheck.record_pending hu hpost ht (eq_false_of_ne_true hfinal)
      obtain ⟨r', σ₂, hpre, h⟩ := Run.bind_eq_ok.1 h
      obtain ⟨rfl, -⟩ := Run.pure_eq_ok.1 h
      exact UntilCheck.record_pending hu hpre hpending hdecided
  · obtain ⟨r, σ₁, hpre, h⟩ := Run.bind_eq_ok.1 h
    rcases Run.ite_eq_ok.1 h with ⟨-, h⟩ | ⟨hfinal, h⟩
    · obtain ⟨rfl, -⟩ := Run.pure_eq_ok.1 h
      cases hdecided
    · have hpending := UntilCheck.record_pending hu hpre ht (eq_false_of_ne_true hfinal)
      obtain ⟨drawn, σ₂, -, h⟩ := Run.bind_eq_ok.1 h
      rcases Run.ite_eq_ok.1 h with ⟨-, h⟩ | ⟨-, h⟩
      · obtain ⟨r', σ₃, hpost, h⟩ := Run.bind_eq_ok.1 h
        obtain ⟨rfl, -⟩ := Run.pure_eq_ok.1 h
        exact UntilCheck.record_pending hu hpost hpending hdecided
      · obtain ⟨rfl, -⟩ := Run.pure_eq_ok.1 h
        exact hpending

/-- The walk has ended open, for it was cut off. -/
def Progress.CutOff (p : Progress R) : Prop := ∃ length, p = .ended ⟨.open, length, true⟩

/-- A path on which nothing is pending ends open. -/
theorem finish_eq_ended {t : Trace R} {length : ℕ} {cutOff : Bool} {p : Progress R}
    (h : finish u t length cutOff σ = .ok (p, τ)) (ht : t.pending = []) :
    p = .ended ⟨.open, length, cutOff⟩ := by
  obtain ⟨r, σ₁, hresolve, h⟩ := Run.bind_eq_ok.1 h
  obtain ⟨rfl, -⟩ := Run.pure_eq_ok.1 h
  obtain ⟨r', σ₂, hreplay, hresolve⟩ := Run.bind_eq_ok.1 hresolve
  obtain ⟨rfl, -⟩ := Run.pure_eq_ok.1 hresolve
  obtain ⟨σ₃, hreplay, -⟩ := Run.withinBounds_eq_ok.1 hreplay
  rw [ht] at hreplay
  obtain ⟨rfl, -⟩ := Run.pure_eq_ok.1 hreplay
  rfl

/-- **A walk that passes the cutoff passes every later one.**  The transition may have been drawn
before. -/
theorem goOn_overlooks (hu : u.Plain L cap) (hcap : ∀ L' ∈ cap, L ≤ L') (hw : w.trace.pending = [])
    (drawn : Option (Transition R)) :
    Overlooks L cap Progress.CutOff (goOn model u origin w drawn) := by
  have hstep := Overlooks.stepCongruence L cap model
  intro σ p τ hσ h
  obtain ⟨_, _, hparams, h⟩ := Run.bind_eq_ok.1 h
  obtain ⟨rfl, rfl⟩ := Run.params_eq_ok.1 hparams
  rw [hσ] at h
  rcases Run.ite_eq_ok.1 h with ⟨-, h⟩ | ⟨hpasses, h⟩
  · -- The path is cut off here, and nothing is pending that could decide it.
    obtain ⟨hτ, hle, -⟩ := hstep.finish hu.related w.trace w.length true σ p τ hσ h
    exact ⟨hτ, hle, fun _ hnot => (hnot ⟨_, finish_eq_ended h hw⟩).elim⟩
  · have hpasses' : ¬cap.any (· ≤ w.length) = true := by
      rintro hcut
      obtain ⟨L', hL', hle⟩ := (Option.any_eq_true _ _).1 hcut
      have hL := hcap L' hL'
      simp only [Option.any_some, decide_eq_true_eq] at hpasses hle
      omega
    cases drawn with
    | some t =>
      obtain ⟨hτ, hle, hsame⟩ :=
        Overlooks.bind (.pure t) (fun t => hstep.leave hu.related origin w t) σ p τ hσ h
      refine ⟨hτ, hle, fun heq _ => Run.bind_eq_ok.2 ⟨_, _, Run.params_eq_ok.2 ⟨rfl, rfl⟩, ?_⟩⟩
      exact Run.ite_eq_ok.2 (.inr ⟨hpasses', hsame heq id⟩)
    | none =>
      obtain ⟨hτ, hle, hsame⟩ :=
        ((hstep.transition w.state).bind fun t => hstep.leave hu.related origin w t) σ p τ hσ h
      refine ⟨hτ, hle, fun heq _ => Run.bind_eq_ok.2 ⟨_, _, Run.params_eq_ok.2 ⟨rfl, rfl⟩, ?_⟩⟩
      exact Run.ite_eq_ok.2 (.inr ⟨hpasses', hsame heq id⟩)

/-- The trace has nothing pending while the walk goes on, so that no checkpoint resolves anything. -/
theorem advance_overlooks (hu : u.Plain L cap) (hcap : ∀ L' ∈ cap, L ≤ L') (hw : w.trace.pending = []) :
    Overlooks L cap Progress.CutOff (advance model u origin w) := by
  have hstep := Overlooks.stepCongruence L cap model
  have hvisit := hstep.visit hu.related (fun side _ => hu.check side) (w.state.time - origin) w.state w.trace
  refine hvisit.bind_of_returns (fun v σ τ hv => ?_) fun _ _ _ _ h => h.elim
  by_cases hdecided : v.decided = true
  · rw [hdecided, if_pos rfl]
    exact .weaken (hstep.finish hu.related _ _ _)
  · have hpending := visit_pending_eq_nil hu hv hw (eq_false_of_ne_true hdecided)
    have hnone : v.trace.hasDeferred = false := by simp [Trace.hasDeferred, hpending]
    rw [if_neg hdecided, hnone, Bool.and_false, if_neg Bool.false_ne_true]
    exact goOn_overlooks hu hcap hpending v.drawn

/-- While the walk goes on nothing is pending. -/
theorem advance_pending (hu : u.Plain L cap) {w' : Walk R} (hw : w.trace.pending = [])
    (h : advance model u origin w σ = .ok (.ongoing w', τ)) : w'.trace.pending = [] := by
  obtain ⟨v, σ₁, hv, h⟩ := Run.bind_eq_ok.1 h
  rcases Run.ite_eq_ok.1 h with ⟨-, h⟩ | ⟨hdecided, h⟩
  · obtain ⟨r, σ₂, -, h⟩ := Run.bind_eq_ok.1 h
    cases (Run.pure_eq_ok.1 h).1
  have hpending := visit_pending_eq_nil hu hv hw (eq_false_of_ne_true hdecided)
  rcases Run.ite_eq_ok.1 h with ⟨hresolves, h⟩ | ⟨-, h⟩
  · simp [Trace.hasDeferred, hpending] at hresolves
  · obtain ⟨e, he, -⟩ | ⟨s, hs⟩ := goOn_leaves h
    · cases he
    · cases hs
      exact hpending

/-- A walk overlooks the largest length, unless it is cut off. -/
theorem run_overlooks (hu : u.Plain L cap) (hcap : ∀ L' ∈ cap, L ≤ L') (fuel : ℕ)
    (hw : w.trace.pending = []) :
    Overlooks L cap (fun e => e.outcome = .open ∧ e.cutOff = true) (run model u origin fuel w) := by
  induction fuel generalizing w with
  | zero => exact .throw _
  | succ fuel ih =>
    refine (advance_overlooks hu hcap hw).bind_of_returns (fun p σ τ hp => ?_) ?_
    · cases p with
      | ended e => exact .pure e
      | ongoing w' => exact ih (advance_pending hu hw hp)
    · rintro _ e σ τ ⟨length, rfl⟩ h
      obtain ⟨rfl, -⟩ := Run.pure_eq_ok.1 h
      exact ⟨rfl, rfl⟩

end Walk

/-- **A simulation that counts no truncated path ignores the largest length.** -/
theorem simulate_ignores [Scalar R] (sim : Simulator R G) (hu : u.Plain L cap)
    (hcap : ∀ L' ∈ cap, L ≤ L') (s : State R) (budget : R) :
    Ignores L cap (simulate sim u s budget) := by
  intro σ b τ hσ h
  obtain ⟨e, σ₁, hwalk, h⟩ := Run.bind_eq_ok.1 h
  obtain ⟨hσ₁, hle, hsame⟩ := Walk.run_overlooks hu hcap sim.fuel rfl σ e σ₁ hσ hwalk
  obtain ⟨_, σ₂, hlength, h⟩ := Run.bind_eq_ok.1 h
  cases hlength
  rcases Run.ite_eq_ok.1 h with ⟨-, h⟩ | ⟨hcounted, h⟩
  · obtain ⟨_, σ₃, hcount, h⟩ := Run.bind_eq_ok.1 h
    cases hcount
    obtain ⟨-, hτ⟩ := Run.pure_eq_ok.1 h
    have htruncated : τ.truncated = σ₁.truncated + 1 := by
      rw [← hτ]
      rfl
    exact ⟨hτ ▸ hσ₁, by omega, fun heq _ => by omega⟩
  · obtain ⟨rfl, rfl⟩ := Run.pure_eq_ok.1 h
    refine ⟨hσ₁, hle, fun heq _ => Run.bind_eq_ok.2 ⟨e, _, hsame heq ?_, ?_⟩⟩
    · rintro ⟨hopen, hcut⟩
      exact hcounted (by rw [hopen, hcut]; rfl)
    · exact Run.bind_eq_ok.2 ⟨_, _, rfl, Run.ite_eq_ok.2 (.inr ⟨hcounted, rfl⟩)⟩

/-! ### Checks -/

section

variable [Scalar R] [Distributions R] (sim : Simulator R G) (hcap : ∀ L' ∈ cap, L ≤ L')

omit [Scalar R] in
/-- No constructor of a test reads the largest length. -/
theorem ThresholdTest.create_withCap [Scalar R] (algorithm : ThresholdAlgorithm) (region : Region R)
    (p : Params R) : create algorithm region { p with maxPathLength := cap }
      = create algorithm region p := by
  cases algorithm <;> rfl

theorem openTest_ignores (u : UntilCheck R G) (bound : R) (s : State R) :
    Ignores L cap (openTest u bound s : Run R (Session R G S) (ThresholdTest R)) := by
  intro σ t τ hσ h
  obtain ⟨⟨new, hnew, hresume⟩, rfl⟩ := openTest_eq_ok.1 h
  refine ⟨hσ, le_rfl, fun _ _ => openTest_eq_ok.2 ⟨⟨new, ?_, hresume⟩, rfl⟩⟩
  exact (ThresholdTest.create_withCap _ _ σ.verifier.params).trans hnew

omit [Distributions R] in
theorem closeTest_ignores (u : UntilCheck R G) (s : State R) (t : ThresholdTest R) :
    Ignores L cap (closeTest u s t : Run R (Session R G S) Unit) := by
  intro σ a τ hσ h
  rw [closeTest_eq] at h
  cases h
  exact ⟨hσ, le_rfl, fun _ _ => closeTest_eq u s t _⟩

include hcap in
theorem checkThreshold_ignores (src : SampleSource R S) (hu : u.Plain L cap) (op : ThresholdOp)
    (bound : R) (s : State R) : Ignores L cap (checkThreshold sim src u op bound s) := by
  unfold checkThreshold
  cases Property.trivialVerdict? op bound with
  | some verdict => exact .pure verdict
  | none =>
    refine Overlooks.nested ((openTest_ignores u bound s).bind fun t => ?_)
    refine Overlooks.params_bind (fun _ => rfl) fun p => ?_
    let path : Run R (Session R G Unit) Bool := simulate sim u s (u.nestedError p)
    have hpath : Ignores L cap path := simulate_ignores sim hu hcap s (u.nestedError p)
    refine Overlooks.bind ?_ fun t => (closeTest_ignores u s t).bind fun _ => .pure t.accepts
    exact @Run.BasicCongruence.completeTest _ _ _ _ (Overlooks.basicCongruence L cap) _ path path hpath
      _ _ src u.id s sim.fuel t

mutual

/-- **A check that counts no truncated path ignores the largest length**, if there are no thresholds
within thresholds. -/
theorem check_ignores (hcap : ∀ L' ∈ cap, L ≤ L') {S : Type} (src : SampleSource R S) (s : State R) :
    ∀ p : Property R, (∀ path ∈ p.pathList, path.isProbabilistic = false) →
      Ignores L cap (check sim src p s)
  | .expr e, _ => by
    rw [check]
    exact .ofExcept _
  | .not p, hflat => by
    rw [check]
    rw [Property.pathList] at hflat
    exact (Overlooks.congruence L cap).negation (y := check sim src p s)
      (check_ignores hcap src s p hflat)
  | .combine c head ps, hflat => by
    rw [check]
    rw [Property.pathList] at hflat
    exact Verdict.Congruence.combine_of_forall (Overlooks.congruence L cap)
      (Option.forall_mem_map.2 fun e _ => .ofExcept _) (operands_ignore hcap src s ps hflat) c
  | .threshold op bound (.until id lower upper pre post), hflat => by
    rw [check]
    rw [Property.pathList] at hflat
    obtain ⟨hpre, hpost⟩ := Bool.or_eq_false_iff.1 (hflat _ (List.mem_cons_self ..))
    refine checkThreshold_ignores sim hcap src ⟨fun side => ?_, fun side s => ?_⟩ op bound s
    · cases side with
      | pre => exact hpre
      | post => exact hpost
    · -- Checks without thresholds have no effect and read no parameters.
      cases side with
      | pre => exact .of_settled (check_settled sim _ s (fun _ => false) [] pre hpre)
      | post => exact .of_settled (check_settled sim _ s (fun _ => false) [] post hpost)

/-- So do the operands of a connective. -/
theorem operands_ignore (hcap : ∀ L' ∈ cap, L ≤ L') {S : Type} (src : SampleSource R S) (s : State R) :
    ∀ ps : List (Property R), (∀ path ∈ Property.pathLists ps, path.isProbabilistic = false) →
      ∀ o ∈ operands sim src ps s, Ignores L cap o.verdict
  | [], _ => by
    rw [operands]
    exact fun _ h => nomatch h
  | p :: ps, hflat => by
    rw [Property.pathLists] at hflat
    rw [operands]
    refine List.forall_mem_cons.2 ⟨check_ignores hcap src s p fun path hpath => ?_,
      operands_ignore hcap src s ps fun path hpath => ?_⟩
    · exact hflat path (List.mem_append_left _ hpath)
    · exact hflat path (List.mem_append_right _ hpath)

end

/-- **Where no path has been truncated, the largest length has made no difference.**  Let no path
property of the tree contain a threshold.  If a verification with a largest length ends, and has counted
no truncated path, then with any larger one, or with none, it ends as well, with the same verdict and
with the same session but for that parameter: the statistics, the generator, the cache and the source
are the same. -/
theorem verify_of_not_truncated (src : SampleSource R S) (p : Property R) (s : State R)
    (hflat : ∀ path ∈ p.pathList, path.isProbabilistic = false) {σ τ : Session R G S} {b : Bool}
    (hlimit : σ.verifier.params.maxPathLength = some L)
    (h : Session.verify sim src p s σ = .ok (b, τ)) (htruncated : τ.verifier.stats.truncatedPaths = 0)
    (hcap : ∀ L' ∈ cap, L ≤ L') :
    Session.verify sim src p s (σ.withCap cap) = .ok (b, τ.withCap cap) := by
  obtain ⟨_, σ₁, hstart, h⟩ := Run.bind_eq_ok.1 h
  have hσ₁ := Run.modifyVerifier_eq_ok.1 hstart
  dsimp only at hσ₁
  have hlimit₁ : σ₁.verifier.params.maxPathLength = some L := by
    rw [← hσ₁]
    exact hlimit
  have htruncated₁ : σ₁.truncated = 0 := by
    rw [← hσ₁]
    rfl
  obtain ⟨-, -, hsame⟩ := check_ignores sim hcap src s p hflat σ₁ b τ hlimit₁ h
  refine Run.bind_eq_ok.2 ⟨(), σ₁.withCap cap, ?_, hsame (htruncated.trans htruncated₁.symm) id⟩
  rw [← hσ₁]
  rfl

end

/-! ### A path that ends before it is cut off -/

namespace Shortcut

abbrev distributions : Distributions Float := ⟨fun _ _ _ => 0, fun _ _ => 0⟩

/-- From the values `[0]` the path comes to `[1]` or to `[2]` in turn, and stays there. -/
def simulator : Simulator Float ℕ where
  model s g :=
    if s.values = [0] then pure (⟨[if g % 2 = 0 then 1 else 2], 1⟩, g + 1)
    else pure (.absorbing s.values, g)
  fuel := 4

def params : Params Float :=
  { Params.default with
    thresholdAlgorithm := .fixed, fixedSampleSize := 4, maxPathLength := some 2, memoization := true }

def session : Session Float ℕ Unit := ⟨⟨params, 0, ∅, ∅, 0, []⟩, ()⟩

/-- Most likely the path comes to `[1]`. -/
def property : Property Float :=
  .threshold .atLeast 0.25
    (.unbounded ⟨1⟩ (.expr (.constant true)) (.expr (.equals 0 1)))

/-- Half of the paths come to `[2]` and end there, of themselves, after one transition. -/
theorem verify_of_not_truncated_shortcut :
    let _ := distributions
    ∃ τ, Session.verify simulator (.simulating Float) property ⟨[0], 0⟩ session = .ok (true, τ) ∧
      τ.verifier.stats.truncatedPaths = 0 ∧
      Session.verify simulator (.simulating Float) property ⟨[0], 0⟩ (session.withCap none)
        = .ok (true, τ.withCap none) := by
  intro _
  have hends : ((Session.verify simulator (.simulating Float) property ⟨[0], 0⟩ session).toOption.map
      fun r => (r.1, r.2.verifier.stats.truncatedPaths)) = some (true, 0) := by
    decide +kernel
  obtain ⟨τ, hτ, htruncated⟩ := Run.exists_of_map_toOption
    (f := fun σ : Session Float ℕ Unit => σ.verifier.stats.truncatedPaths) hends
  have hflat : ∀ path ∈ property.pathList, path.isProbabilistic = false := by decide +kernel
  exact ⟨τ, hτ, htruncated, verify_of_not_truncated simulator (.simulating Float) property ⟨[0], 0⟩
    hflat rfl hτ htruncated fun _ h => nomatch h⟩

end Shortcut

end SimCheck
