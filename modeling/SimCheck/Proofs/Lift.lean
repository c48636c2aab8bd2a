import SimCheck.Proofs.Check
import SimCheck.Proofs.Congruence

/-!
# Lifting a run to a larger generator

What a run writes down can be carried as a part of the generator, where nothing but the model reads.
A run over the larger generator lifts one over the smaller if both end alike, up to that part.

* `Session.mapGenerator`: the session with another generator;
* `Lifts f x y`: up to the part of the generator that `f` drops, `x` is `y`;
* `Lifts.congruence`: lifts are built operation by operation;
* `Lifts.openTest`, `Lifts.closeTest`, `Lifts.runTest`: the tests of path properties whose sides are
  lifts;
* `Model.carrying`, `Simulator.carrying`: transitions drawn with something beside the generator.
-/

namespace SimCheck

variable {R G' G S α β : Type}

/-- The verifier with another generator. -/
def Verifier.mapGenerator (f : G' → G) (v : Verifier R G') : Verifier R G :=
  ⟨v.params, f v.generator, v.stats, v.cache, v.level, v.events⟩

/-- The session with another generator. -/
def Session.mapGenerator (f : G' → G) (σ : Session R G' S) : Session R G S :=
  ⟨σ.verifier.mapGenerator f, σ.source⟩

/-- Up to the generator the first run is the second. -/
def Lifts (f : G' → G) (x : Run R (Session R G' S) α) (y : Run R (Session R G S) α) : Prop :=
  ∀ σ, (x σ).map (Prod.map id (Session.mapGenerator f)) = y (σ.mapGenerator f)

/-- The models draw the same transitions. -/
def Model.Lifts (f : G' → G) (model' : Model R G') (model : Model R G) : Prop :=
  ∀ s g, (model' s g).map (Prod.map id f) = model s (f g)

namespace Lifts

variable {f : G' → G} {x : Run R (Session R G' S) α} {y : Run R (Session R G S) α}

theorem pure (a : α) :
    Lifts f (Pure.pure a : Run R (Session R G' S) α) (Pure.pure a : Run R (Session R G S) α) :=
  fun _ => rfl

theorem throw (h : Halt R) :
    Lifts f (MonadExcept.throw h : Run R (Session R G' S) α)
      (MonadExcept.throw h : Run R (Session R G S) α) :=
  fun _ => rfl

theorem bind {k' : α → Run R (Session R G' S) β} {k : α → Run R (Session R G S) β}
    (hx : Lifts f x y) (hk : ∀ a, Lifts f (k' a) (k a)) : Lifts f (x >>= k') (y >>= k) := by
  intro σ
  show (x σ >>= fun r => k' r.1 r.2).map _ = y (σ.mapGenerator f) >>= fun r => k r.1 r.2
  rw [← hx σ]
  cases x σ with
  | error e => rfl
  | ok r => exact hk r.1 r.2

theorem ite {c : Prop} [Decidable c] {x' : Run R (Session R G' S) α} {y' : Run R (Session R G S) α}
    (h : Lifts f x y) (h' : Lifts f x' y') :
    Lifts f (if c then x else x') (if c then y else y') := by
  split_ifs
  · exact h
  · exact h'

theorem ofExcept (e : Except (Fault R) α) :
    Lifts f (Run.ofExcept e : Run R (Session R G' S) α)
      (Run.ofExcept e : Run R (Session R G S) α) := by
  cases e with
  | error e => exact throw (.fault e)
  | ok a => exact pure a

/-- Reading the verifier, of which the generator is not looked at. -/
theorem verifier_bind {k' : Verifier R G' → Run R (Session R G' S) β}
    {k : Verifier R G → Run R (Session R G S) β}
    (hk : ∀ v, Lifts f (k' v) (k (v.mapGenerator f))) :
    Lifts f (Run.verifier >>= k') (Run.verifier >>= k) :=
  fun σ => hk σ.verifier σ

theorem params : Lifts f (Run.params : Run R (Session R G' S) (Params R)) Run.params :=
  verifier_bind fun _ => .pure _

theorem modifyVerifier {g' : Verifier R G' → Verifier R G'} {g : Verifier R G → Verifier R G}
    (h : ∀ v, (g' v).mapGenerator f = g (v.mapGenerator f)) :
    Lifts f (Run.modifyVerifier g' : Run R (Session R G' S) Unit) (Run.modifyVerifier g) := by
  intro σ
  have hv : (g' σ.verifier).mapGenerator f = g (σ.mapGenerator f).verifier := h σ.verifier
  show Except.ok ((), (⟨(g' σ.verifier).mapGenerator f, σ.source⟩ : Session R G S)) = _
  rw [hv]
  rfl

theorem transition {model' : Model R G'} {model : Model R G} (hmodel : model'.Lifts f model)
    (s : State R) : Lifts (S := S) f (Run.transition model' s) (Run.transition model s) := by
  intro σ
  rw [Run.transition_eq, Run.transition_eq]
  have hgenerator : (σ.mapGenerator f).verifier.generator = f σ.verifier.generator := rfl
  rw [hgenerator, ← hmodel]
  cases model' s σ.verifier.generator with
  | error e => rfl
  | ok r => rfl

theorem locally {x : Run R (Session R G' Unit) α} {y : Run R (Session R G Unit) α}
    (hx : Lifts f x y) : Lifts f (Run.locally x : Run R (Session R G' S) α) (Run.locally y) := by
  intro σ
  have hσ := hx ⟨σ.verifier, ()⟩
  have hstart : (⟨σ.verifier, ()⟩ : Session R G' Unit).mapGenerator f
      = ⟨(σ.mapGenerator f).verifier, ()⟩ := rfl
  rw [hstart] at hσ
  rw [Run.locally_apply, Run.locally_apply, ← hσ]
  cases x ⟨σ.verifier, ()⟩ with
  | error e => rfl
  | ok r => rfl

theorem nested (hx : Lifts f x y) : Lifts f (Run.nested x) (Run.nested y) := by
  unfold Run.nested
  refine bind (modifyVerifier ?_) fun _ => hx.bind fun a => bind (modifyVerifier ?_) fun _ => .pure a
  · exact fun _ => rfl
  · exact fun _ => rfl

theorem withinBounds (b : ErrorBounds R) (hx : Lifts f x y) :
    Lifts f (Run.withinBounds b x) (Run.withinBounds b y) := by
  refine bind params fun p => bind (modifyVerifier ?_) fun _ => hx.bind fun a =>
    bind (modifyVerifier ?_) fun _ => .pure a
  · exact fun _ => rfl
  · exact fun _ => rfl

/-- **Lifts are built operation by operation.** -/
theorem congruence [Scalar R] {model' : Model R G'} {model : Model R G}
    (hmodel : model'.Lifts f model) :
    Run.Congruence (fun _ _ => Lifts f) model' model where
  pure := pure
  throw := throw
  bind := bind
  params := params
  within b hx := hx.withinBounds b
  nested hx := hx.nested
  locally := locally
  report _ := modifyVerifier fun _ => rfl
  count _ := modifyVerifier fun _ => rfl
  transition := transition hmodel
  readSource hk := fun σ => hk σ.source σ
  changeSource _ := fun _ => rfl

/-- A run that ends has ended alike over the larger generator. -/
theorem exists_of_ok (h : Lifts f x y) {σ : Session R G' S} {τ : Session R G S} {a : α}
    (hy : y (σ.mapGenerator f) = .ok (a, τ)) : ∃ σ', x σ = .ok (a, σ') ∧ σ'.mapGenerator f = τ := by
  have hx := h σ
  rw [hy] at hx
  cases hrun : x σ with
  | error e =>
    rw [hrun] at hx
    cases hx
  | ok r =>
    rw [hrun] at hx
    cases hx
    exact ⟨r.2, rfl, rfl⟩

/-- What a run keeps it keeps over the larger generator. -/
theorem keeps {γ : Type} {p' : Session R G' S → γ} {p : Session R G S → γ} (h : Lifts f x y)
    (hp : ∀ σ, p (σ.mapGenerator f) = p' σ) (hy : Run.Keeps p y) : Run.Keeps p' x := by
  intro σ a σ' hx
  have hlift := h σ
  rw [hx] at hlift
  rw [← hp, ← hp]
  exact hy (σ.mapGenerator f) a (σ'.mapGenerator f) hlift.symm

/-! ### Tests -/

section Tests

variable [Scalar R] [Distributions R] {u' : UntilCheck R G'} {u : UntilCheck R G}
  (hu : u'.Related (fun _ _ => Lifts f) u)

include hu

theorem openTest (bound : R) (s : State R) :
    Lifts f (SimCheck.openTest u' bound s : Run R (Session R G' S) _)
      (SimCheck.openTest u bound s) := by
  refine verifier_bind fun v => ?_
  rw [hu.nestedError_eq, hu.id]
  refine bind (ofExcept _) fun t => ite ?_ (pure t)
  have hcache : (v.mapGenerator f).cache = v.cache := rfl
  rw [hcache]
  cases v.cache.get? ⟨u.id, s.values⟩ with
  | some sample => exact pure _
  | none => exact pure _

omit [Distributions R] in
theorem closeTest (s : State R) (t : ThresholdTest R) :
    Lifts f (SimCheck.closeTest u' s t : Run R (Session R G' S) _) (SimCheck.closeTest u s t) := by
  intro σ
  rw [closeTest_eq, closeTest_eq]
  unfold Verifier.close
  rw [hu.id]
  rfl

theorem runTest {model' : Model R G'} {model : Model R G} (hmodel : model'.Lifts f model)
    (fuel : ℕ) (src : SampleSource R S) (bound : R) (s : State R) :
    Lifts f (SimCheck.runTest ⟨model', fuel⟩ src u' bound s)
      (SimCheck.runTest ⟨model, fuel⟩ src u bound s) := by
  have h := congruence hmodel
  refine bind (openTest hu bound s) fun t => bind params fun p => ?_
  rw [hu.id, hu.nestedError_eq]
  refine bind (h.completeTest (h.simulate hu fuel s _) src u.id s fuel t) fun t => ?_
  exact bind (closeTest hu s t) fun _ => pure _

end Tests

end Lifts

/-! ### Something beside the generator -/

variable {L : Type}

/-- The model that draws from the generator and leaves alone what is beside it. -/
def Model.carrying (L : Type) (model : Model R G) : Model R (G × L) := fun s g =>
  (model s g.1).map fun r => (r.1, (r.2, g.2))

/-- The simulator that draws from the generator and leaves alone what is beside it. -/
def Simulator.carrying (L : Type) (sim : Simulator R G) : Simulator R (G × L) :=
  ⟨sim.model.carrying L, sim.fuel⟩

theorem Model.carrying_lifts (model : Model R G) : (model.carrying L).Lifts Prod.fst model := by
  intro s g
  unfold Model.carrying
  cases model s g.1 with
  | error e => rfl
  | ok r => rfl

end SimCheck
