import SimCheck.Proofs.Memo.Ledger

/-!
# The statistics inside a test

Only tests at the first level report the sizes of their samples.  Paths are simulated at that level, and
the tests inside them run one level deeper, so that no simulation reports a size.

* `Quiet n x`: from level `n` on `x` ends at the level it began at and reports no size;
* `Quiet.congruence`, `Quiet.nested`: what quiet runs are built from;
* `Quiet.simulate`: the simulation of a path within a test.
-/

namespace SimCheck

variable {R G S α β : Type}

/-- At level `n` or deeper the run ends at the level at which it began, and it leaves the sizes of
samples alone. -/
def Quiet (n : ℕ) (x : Run R (Session R G S) α) : Prop :=
  ∀ σ a τ, n ≤ σ.verifier.level → x σ = .ok (a, τ) →
    τ.verifier.level = σ.verifier.level ∧
      τ.verifier.stats.sampleSize = σ.verifier.stats.sampleSize

namespace Quiet

variable {n m : ℕ} {x : Run R (Session R G S) α}

theorem mono (hx : Quiet n x) (h : n ≤ m) : Quiet m x :=
  fun σ a τ hlevel hrun => hx σ a τ (Nat.le_trans h hlevel) hrun

theorem pure (a : α) : Quiet n (Pure.pure a : Run R (Session R G S) α) := by
  intro σ b τ _ h
  obtain ⟨-, rfl⟩ := Run.pure_eq_ok.1 h
  exact ⟨rfl, rfl⟩

theorem bind {k : α → Run R (Session R G S) β} (hx : Quiet n x) (hk : ∀ a, Quiet n (k a)) :
    Quiet n (x >>= k) := by
  intro σ b τ hlevel h
  obtain ⟨a, ρ, hfirst, hrest⟩ := Run.bind_eq_ok.1 h
  obtain ⟨hlevel₁, hsize₁⟩ := hx σ a ρ hlevel hfirst
  obtain ⟨hlevel₂, hsize₂⟩ := hk a ρ b τ (hlevel₁.symm ▸ hlevel) hrest
  exact ⟨hlevel₂.trans hlevel₁, hsize₂.trans hsize₁⟩

theorem modifyVerifier {g : Verifier R G → Verifier R G} (hlevel : ∀ v, (g v).level = v.level)
    (hsize : ∀ v, (g v).stats.sampleSize = v.stats.sampleSize) :
    Quiet n (Run.modifyVerifier g : Run R (Session R G S) Unit) := by
  intro σ a τ _ h
  cases h
  exact ⟨hlevel σ.verifier, hsize σ.verifier⟩

theorem params : Quiet n (Run.params : Run R (Session R G S) (Params R)) := by
  intro σ p τ _ h
  obtain ⟨-, rfl⟩ := Run.params_eq_ok.1 h
  exact ⟨rfl, rfl⟩

/-- What is quiet one level deeper is quiet when it is run there. -/
theorem nested (hx : Quiet (n + 1) x) : Quiet n (Run.nested x) := by
  intro σ a τ hlevel h
  obtain ⟨ρ, hrun, rfl⟩ := Run.nested_eq_ok.1 h
  obtain ⟨hdeeper, hsize⟩ := hx _ a ρ (Nat.succ_le_succ hlevel) hrun
  exact ⟨Nat.sub_eq_of_eq_add hdeeper, hsize⟩

theorem locally {x : Run R (Session R G Unit) α} (hx : Quiet n x) :
    Quiet n (Run.locally x : Run R (Session R G S) α) := by
  intro σ a τ hlevel h
  obtain ⟨ρ, hrun, rfl⟩ := Run.locally_eq_ok.1 h
  exact hx ⟨σ.verifier, ()⟩ _ _ hlevel hrun

theorem transition (model : Model R G) (s : State R) :
    Quiet n (Run.transition model s : Run R (Session R G S) (Transition R)) := by
  intro σ t τ _ h
  obtain ⟨g, -, rfl⟩ := Run.transition_eq_ok.1 h
  exact ⟨rfl, rfl⟩

/-- **Whatever is built from quiet runs is quiet.** -/
theorem congruence [Scalar R] (n : ℕ) (model : Model R G) :
    Run.Congruence (fun _ _ x _ => Quiet n x) model model where
  pure := pure
  throw _ := fun _ _ _ _ h => (Run.throw_ne_ok h).elim
  bind := bind
  params := params
  within b hx := by
    intro σ a τ hlevel h
    obtain ⟨ρ, hrun, rfl⟩ := Run.withinBounds_eq_ok.1 h
    exact hx { σ with verifier.params := σ.verifier.params.withBounds b } a ρ hlevel hrun
  nested hx := nested (hx.mono n.le_succ)
  locally := locally
  report _ := modifyVerifier (fun _ => rfl) fun _ => rfl
  count _ := modifyVerifier (fun _ => rfl) fun _ => rfl
  transition := transition model
  readSource hk := fun σ a τ hlevel h => hk σ.source σ a τ hlevel h
  changeSource _ := by
    intro σ a τ _ h
    cases h
    exact ⟨rfl, rfl⟩

/-! ### Tests -/

variable [Scalar R] {u : UntilCheck R G}

/-- Below the first level a test reports no size. -/
theorem closeTest (s : State R) (t : ThresholdTest R) :
    Quiet 2 (SimCheck.closeTest u s t : Run R (Session R G S) Unit) := by
  intro σ a τ hlevel h
  rw [closeTest_eq] at h
  cases h
  exact ⟨rfl, if_neg (by omega)⟩

variable [Distributions R]

theorem openTest (bound : R) (s : State R) :
    Quiet n (SimCheck.openTest u bound s : Run R (Session R G S) (ThresholdTest R)) := by
  intro σ t τ _ h
  obtain ⟨-, rfl⟩ := openTest_eq_ok.1 h
  exact ⟨rfl, rfl⟩

/-- A test is quiet if its path is, however it is drawn from. -/
theorem completing (model : Model R G) (src : SampleSource R S) (id : PropertyId) (s : State R)
    {path : Run R (Session R G Unit) Bool} (hpath : Quiet n path) (fuel : ℕ) (t : ThresholdTest R) :
    Quiet n (SimCheck.completing src id s path fuel t) :=
  @Run.BasicCongruence.completing _ _ _ _ _ _ _ (congruence n model).toBasicCongruence path path hpath
    src id s fuel t

variable (sim : Simulator R G) (src : SampleSource R S)
  (hu : u.Related (fun _ _ x _ => Quiet 1 x) u)

include hu

theorem checkThreshold (op : ThresholdOp) (bound : R) (s : State R) :
    Quiet 1 (SimCheck.checkThreshold sim src u op bound s) := by
  unfold SimCheck.checkThreshold
  cases Property.trivialVerdict? op bound with
  | some verdict => exact pure verdict
  | none =>
    rw [runTest_eq]
    refine nested (bind (openTest bound s) fun t => bind params fun p => ?_)
    have hpath : Quiet 2 (SimCheck.simulate sim u s (u.nestedError p)) :=
      mono ((congruence 1 sim.model).simulate hu sim.fuel s (u.nestedError p)) (Nat.le_succ 1)
    refine bind (completing sim.model src u.id s hpath sim.fuel t) fun r => ?_
    exact bind (closeTest s r.1) fun _ => pure _

omit hu in
/-- **A path that is simulated for a test reports no size.** -/
theorem simulate (path : PathProperty R) (s : State R) (budget : R) :
    Quiet 1 (SimCheck.simulate sim (path.checks sim) s budget) := by
  have hsides := (congruence 1 sim.model).checks (fun hu src op bound s => ?_) path
  · exact (congruence 1 sim.model).simulate hsides sim.fuel s budget
  · exact checkThreshold sim src ⟨rfl, rfl, rfl, fun _ => rfl, hu.check⟩ op bound s

end Quiet

end SimCheck
