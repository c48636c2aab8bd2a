import SimCheck.Proofs.Frame
import SimCheck.Scalar.Binary64

/-!
# Overrides are undone

Checks run within changed error bounds and at deeper levels.  Whenever a check or the simulation of
a path ends, parameters and level are what they were before.  So are the parameters after a query;
of the level, verifications and estimates set their own and leave it at zero.

* `Session.scope` is the part of a session that overrides change for a while;
* `scope_frame`: whatever it is that a check does, it survives;
* `simulate_keeps_scope`, `check_keeps_scope`: paths and checks keep it;
* `Session.scope_of_verify`, `Session.scope_of_estimate`, `Session.samplePath_keeps_scope`: queries;
* `Session.overrides_undone`: all of them together.
-/

namespace SimCheck

open Run (Keeps)

variable {R G S α : Type}

/-- The parameters and the level in force. -/
def Session.scope (s : Session R G S) : Params R × Nat := (s.verifier.params, s.verifier.level)

theorem Session.scope_eq_iff {s : Session R G S} {t : Session R G α} :
    s.scope = t.scope ↔
      s.verifier.params = t.verifier.params ∧ s.verifier.level = t.verifier.level := by
  simp [Session.scope]

/-- Parameters and level survive, whatever samples are stored. -/
theorem scope_frame : Frame (fun _ => True) fun v : Verifier R G => (v.params, v.level) where
  generator _ _ := rfl
  stats _ _ := rfl
  events _ _ := rfl
  cache _ _ _ _ := rfl
  params := by
    intro v w p h
    exact congrArg (v.params, ·) (Prod.mk.inj h).2
  level := by
    intro v w h
    obtain ⟨hparams, hlevel⟩ := Prod.mk.inj h
    exact Prod.ext hparams (Nat.sub_eq_of_eq_add hlevel)

/-- The checks of both sides keep the scope. -/
def UntilCheck.KeepsScope (u : UntilCheck R G) : Prop :=
  ∀ side s, Keeps Session.scope ((u.side side).check s)

theorem Run.nested_keeps_scope {x : Run R (Session R G S) α} (hx : Keeps Session.scope x) :
    Keeps Session.scope (nested x) := scope_frame.nested hx

theorem Run.params_keeps_scope :
    Keeps Session.scope (params : Run R (Session R G S) (Params R)) :=
  params_keeps (f := fun v => (v.params, v.level))

theorem Run.locally_keeps_scope {x : Run R (Session R G Unit) α} (hx : Keeps Session.scope x) :
    Keeps Session.scope (locally x : Run R (Session R G S) α) :=
  locally_keeps (f := fun v => (v.params, v.level)) hx

variable [Scalar R] {u : UntilCheck R G}

theorem simulate_keeps_scope (hu : u.KeepsScope) (sim : Simulator R G) (s : State R) (budget : R) :
    Keeps Session.scope (simulate sim u s budget) := scope_frame.simulate hu sim s budget

variable [Distributions R]

theorem completeTest_keeps_scope (model : Model R G) (src : SampleSource R S) (id : PropertyId)
    (s : State R) {path : Run R (Session R G Unit) Bool} (hpath : Keeps Session.scope path)
    (fuel : Nat) (t : ThresholdTest R) : Keeps Session.scope (completeTest src id s path fuel t) :=
  scope_frame.completeTest model src id s hpath fuel t

theorem runTest_keeps_scope (hu : u.KeepsScope) (sim : Simulator R G) (src : SampleSource R S)
    (bound : R) (s : State R) : Keeps Session.scope (runTest sim src u bound s) :=
  scope_frame.runTest hu trivial sim src bound s

/-- **A check leaves parameters and level as they were.** -/
theorem check_keeps_scope (sim : Simulator R G) {S : Type} (src : SampleSource R S)
    (p : Property R) (s : State R) : Keeps Session.scope (check sim src p s) :=
  scope_frame.check sim src p s fun _ _ => trivial

/-- The sides of a path property are checked without a change of parameters or level. -/
theorem PathProperty.checks_keepsScope (sim : Simulator R G) (path : PathProperty R) :
    (path.checks sim).KeepsScope := by
  intro side s
  cases side with
  | pre => exact check_keeps_scope sim (.simulating R) path.pre s
  | post => exact check_keeps_scope sim (.simulating R) path.post s

/-! ### Queries -/

namespace Session

variable (sim : Simulator R G) {S : Type} (src : SampleSource R S)

theorem samplePath_keeps_scope (path : PathProperty R) (s : State R) :
    Keeps Session.scope (samplePath sim path s : Run R (Session R G S) Bool) := by
  refine Run.params_keeps_scope.bind fun p => Run.nested_keeps_scope (Run.locally_keeps_scope ?_)
  exact simulate_keeps_scope (path.checks_keepsScope sim) sim s ((path.checks sim).nestedError p)

theorem runEstimate_keeps_scope (p : Params R) {path : Run R (Session R G Unit) Bool}
    (hpath : Keeps Session.scope path) : Keeps Session.scope (runEstimate sim src p path) :=
  @Run.Congruence.runEstimate _ _ _ _ _ _ _ (scope_frame.congruence sim.model) _ _ path path hpath
    sim sim rfl src p

/-- A verification that ends leaves the parameters alone and the level at zero. -/
theorem scope_of_verify {p : Property R} {s : State R} {σ τ : Session R G S} {verdict : Bool}
    (h : verify sim src p s σ = .ok (verdict, τ)) : τ.scope = (σ.verifier.params, 0) := by
  obtain ⟨_, σ₁, hstart, hcheck⟩ := Run.bind_eq_ok.1 h
  cases hstart
  exact check_keeps_scope sim src p s _ verdict τ hcheck

/-- An estimate that is refused changes nothing; any other leaves the parameters alone and the level
at zero. -/
theorem scope_of_estimate {path : PathProperty R} {s : State R} {σ τ : Session R G S}
    {answer : Except (QueryError R) (Estimate R)} (h : estimate sim src path s σ = .ok (answer, τ)) :
    match answer with
    | .ok _ => τ.scope = (σ.verifier.params, 0)
    | .error _ => τ = σ := by
  obtain ⟨p, σ₁, hparams, h⟩ := Run.bind_eq_ok.1 h
  obtain ⟨rfl, rfl⟩ := Run.params_eq_ok.1 hparams
  rcases Run.ite_eq_ok.1 h with ⟨-, h⟩ | ⟨-, h⟩
  · obtain ⟨rfl, rfl⟩ := Run.pure_eq_ok.1 h
    rfl
  · obtain ⟨_, _, hstart, h⟩ := Run.bind_eq_ok.1 h
    obtain ⟨_, _, hbegin, h⟩ := Run.bind_eq_ok.1 h
    obtain ⟨e, σ₃, hrun, hrest⟩ := Run.bind_eq_ok.1 h
    cases hstart
    cases hbegin
    cases hrest
    have hpath := simulate_keeps_scope (path.checks_keepsScope sim) sim s
      ((path.checks sim).nestedError σ.verifier.params)
    have hkept := runEstimate_keeps_scope sim src σ.verifier.params hpath _ e σ₃ hrun
    obtain ⟨hparams, -⟩ := Session.scope_eq_iff.1 hkept
    exact Prod.ext hparams rfl

/-- **Overrides are undone.**  Whatever is checked or simulated, at whatever depth, parameters and
level are the same after it as before.  After a call on the verifier the parameters are those of before
it, and the level is that of before it or zero. -/
theorem overrides_undone :
    (∀ (p : Property R) (s : State R), Keeps Session.scope (check sim src p s)) ∧
    (∀ (path : PathProperty R) (s : State R) (budget : R),
      Keeps Session.scope (simulate sim (path.checks sim) s budget)) ∧
    (∀ (path : PathProperty R) (s : State R),
      Keeps Session.scope (samplePath sim path s : Run R (Session R G S) Bool)) ∧
    (∀ (p : Property R) (s : State R) (σ τ : Session R G S) (verdict : Bool),
      verify sim src p s σ = .ok (verdict, τ) →
        τ.verifier.params = σ.verifier.params ∧ τ.verifier.level = 0) ∧
    ∀ (path : PathProperty R) (s : State R) (σ τ : Session R G S)
      (answer : Except (QueryError R) (Estimate R)),
      estimate sim src path s σ = .ok (answer, τ) →
        τ.verifier.params = σ.verifier.params ∧
          τ.verifier.level = if answer.isOk then 0 else σ.verifier.level := by
  refine ⟨check_keeps_scope sim src, fun path => ?_, samplePath_keeps_scope sim, ?_, ?_⟩
  · exact simulate_keeps_scope (path.checks_keepsScope sim) sim
  · exact fun p s σ τ verdict h => Prod.mk.inj (scope_of_verify sim src h)
  · intro path s σ τ answer h
    have hscope := scope_of_estimate sim src h
    cases answer with
    | ok e => exact Prod.mk.inj hscope
    | error e =>
      cases hscope
      exact ⟨rfl, rfl⟩

end Session

/-! ### A test within a test -/

namespace Tower

/-- The quantile makes two observations enough for an estimate. -/
abbrev distributions : Distributions Float := ⟨fun _ _ _ => 0, fun _ _ => 1⟩

/-- `x0` is counted up after a unit of time; the generator counts the transitions. -/
def simulator : Simulator Float ℕ where
  model s drawn := .ok (⟨s.values.map (· + 1), 1⟩, drawn + 1)
  fuel := 8

/-- While `x0` is zero it is most likely that it comes to be two. -/
def path : PathProperty Float :=
  .unbounded ⟨1⟩ (.expr (.equals 0 0))
    (.threshold .atLeast 0.5 (.unbounded ⟨2⟩ (.expr (.constant true)) (.expr (.equals 0 2))))

def threshold : Property Float := .threshold .atLeast 0.5 path

/-- A threshold and its negation do not hold both. -/
def property : Property Float := .not (.combine .conjunction none [threshold, .not threshold])

def params : Params Float :=
  { Params.default with
    beta := 0.05, delta := 0.5, thresholdAlgorithm := .fixed, fixedSampleSize := 2, memoization := true }

/-- A verifier that is left three levels deep. -/
def session : Session Float ℕ Unit := ⟨⟨params, 0, ∅, ∅, 3, []⟩, ()⟩

/-- A verification and an estimate find their own level, one path goes one level deeper. -/
theorem overrides_undone_tower :
    let _ := distributions
    (∃ τ, Session.verify simulator (.simulating Float) property ⟨[0], 0⟩ session = .ok (true, τ) ∧
      τ.verifier.params = params ∧ τ.verifier.level = 0) ∧
    (∃ e τ, Session.estimate simulator (.simulating Float) path ⟨[0], 0⟩ session = .ok (.ok e, τ) ∧
      τ.verifier.params = params ∧ τ.verifier.level = 0) ∧
    ∃ τ, Session.samplePath simulator path ⟨[0], 0⟩ session = .ok (true, τ) ∧
      τ.verifier.params = params ∧ τ.verifier.level = 3 := by
  intro _
  obtain ⟨-, -, hpath, hverify, hestimate⟩ :=
    Session.overrides_undone simulator (.simulating Float)
  refine ⟨?_, ?_, ?_⟩
  · have hrun : ((Session.verify simulator (.simulating Float) property ⟨[0], 0⟩ session).toOption.map
        fun r => (r.1, ())) = some (true, ()) := by decide +kernel
    obtain ⟨τ, hτ, -⟩ := Run.exists_of_map_toOption (f := fun _ => ()) hrun
    exact ⟨τ, hτ, hverify property _ session τ true hτ⟩
  · have hrun : ((Session.estimate simulator (.simulating Float) path ⟨[0], 0⟩ session).toOption.map
        fun r => r.1.isOk) = some true := by decide +kernel
    cases h : Session.estimate simulator (.simulating Float) path ⟨[0], 0⟩ session with
    | error e =>
      rw [h] at hrun
      cases hrun
    | ok r =>
      obtain ⟨answer, τ⟩ := r
      rw [h] at hrun
      cases answer with
      | error e => cases hrun
      | ok e => exact ⟨e, τ, rfl, hestimate path _ session τ (.ok e) h⟩
  · have hrun : ((Session.samplePath simulator path ⟨[0], 0⟩ session).toOption.map
        fun r => (r.1, ())) = some (true, ()) := by decide +kernel
    obtain ⟨τ, hτ, -⟩ := Run.exists_of_map_toOption (f := fun _ => ()) hrun
    exact ⟨τ, hτ, Session.scope_eq_iff.1 (hpath path _ session true τ hτ)⟩

end Tower

end SimCheck
