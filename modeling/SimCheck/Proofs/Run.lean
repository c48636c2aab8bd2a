import SimCheck.Verifier.Session
import Mathlib.Tactic.Common

/-!
# Reasoning about runs

A run ends with a value and a state, or it halts.  Statements about runs are about those that end,
written `x s = .ok (a, s')`.

* `bind_eq_ok` and its companions take a run that ends apart into the steps it consists of;
* `Keeps f x` says that `x` leaves the part `f` of the state as it found it, whenever it ends.
  It is closed under everything runs are built from, so that a frame condition of a loop follows
  from one of its body.
-/

namespace SimCheck.Run

variable {R G S σ α β γ : Type}

/-! ### Runs that end -/

theorem bind_eq_ok {x : Run R σ α} {f : α → Run R σ β} {s : σ} {r : β × σ} :
    (x >>= f) s = .ok r ↔ ∃ a s', x s = .ok (a, s') ∧ f a s' = .ok r := by
  show (x s >>= fun p => f p.1 p.2) = .ok r ↔ _
  cases h : x s with
  | error e => simp [bind, Except.bind]
  | ok p =>
    obtain ⟨a, s'⟩ := p
    simp only [bind, Except.bind, Except.ok.injEq, Prod.mk.injEq]
    constructor
    · exact fun hf => ⟨a, s', ⟨rfl, rfl⟩, hf⟩
    · rintro ⟨_, _, ⟨rfl, rfl⟩, hf⟩
      exact hf

theorem pure_eq_ok {a b : α} {s t : σ} :
    (pure a : Run R σ α) s = .ok (b, t) ↔ a = b ∧ s = t := by
  show Except.ok (a, s) = Except.ok (b, t) ↔ _
  simp

theorem map_eq_ok {x : Run R σ α} {f : α → β} {s t : σ} {b : β} :
    (f <$> x) s = .ok (b, t) ↔ ∃ a, x s = .ok (a, t) ∧ f a = b := by
  rw [map_eq_pure_bind, bind_eq_ok]
  simp only [pure_eq_ok]
  constructor
  · rintro ⟨a, s', hx, rfl, rfl⟩
    exact ⟨a, hx, rfl⟩
  · rintro ⟨a, hx, rfl⟩
    exact ⟨a, t, hx, rfl, rfl⟩

theorem throw_ne_ok {h : Halt R} {s : σ} {r : α × σ} :
    (throw h : Run R σ α) s ≠ .ok r := by
  intro he
  cases he

theorem ofExcept_eq_ok {x : Except (Fault R) α} {s : σ} {a : α} {t : σ} :
    ofExcept x s = .ok (a, t) ↔ x = .ok a ∧ s = t := by
  cases x with
  | error f => simp [ofExcept, throw_ne_ok]
  | ok b => simp [ofExcept, pure_eq_ok]

theorem ite_eq_ok {c : Prop} [Decidable c] {x y : Run R σ α} {s : σ} {r : α × σ} :
    (if c then x else y) s = .ok r ↔ (c ∧ x s = .ok r) ∨ (¬c ∧ y s = .ok r) := by
  split_ifs with h <;> simp [h]

/-- A run ends if its value and a part of its last state can be told. -/
theorem exists_of_map_toOption {x : Run R σ α} {f : σ → β} {s : σ} {a : α} {b : β}
    (h : (x s).toOption.map (fun r => (r.1, f r.2)) = some (a, b)) :
    ∃ t, x s = .ok (a, t) ∧ f t = b := by
  cases hx : x s with
  | error e =>
    rw [hx] at h
    cases h
  | ok r =>
    rw [hx] at h
    cases h
    exact ⟨r.2, rfl, rfl⟩

theorem verifier_eq_ok {s t : Session R G S} {v : Verifier R G} :
    verifier s = .ok (v, t) ↔ s.verifier = v ∧ s = t := by
  show Except.ok (s.verifier, s) = Except.ok (v, t) ↔ _
  simp

theorem params_eq_ok {s t : Session R G S} {p : Params R} :
    params s = .ok (p, t) ↔ s.verifier.params = p ∧ s = t := by
  show Except.ok (s.verifier.params, s) = Except.ok (p, t) ↔ _
  simp

theorem modifyVerifier_eq_ok {f : Verifier R G → Verifier R G} {s : Session R G S}
    {r : Unit × Session R G S} :
    modifyVerifier f s = .ok r ↔ { s with verifier := f s.verifier } = r.2 := by
  show Except.ok (_, _) = Except.ok r ↔ _
  simp [Prod.ext_iff]

/-- A run within other bounds is the run itself on the changed parameters, which are changed back
afterwards. -/
theorem withinBounds_apply (b : ErrorBounds R) (x : Run R (Session R G S) α) (s : Session R G S) :
    withinBounds b x s = (x { s with verifier.params := s.verifier.params.withBounds b }).map fun r =>
      (r.1, { r.2 with verifier.params := s.verifier.params }) := by
  show (x _ >>= fun r => .ok (r.1, { r.2 with verifier.params := s.verifier.params })) = _
  cases x { s with verifier.params := s.verifier.params.withBounds b } <;> rfl

theorem nested_apply (x : Run R (Session R G S) α) (s : Session R G S) :
    nested x s = (x { s with verifier.level := s.verifier.level + 1 }).map fun r =>
      (r.1, { r.2 with verifier.level := r.2.verifier.level - 1 }) := by
  show (x _ >>= fun r => .ok (r.1, { r.2 with verifier.level := r.2.verifier.level - 1 })) = _
  cases x { s with verifier.level := s.verifier.level + 1 } <;> rfl

/-- What is simulated leaves the source as it is. -/
theorem locally_apply (x : Run R (Session R G Unit) α) (s : Session R G S) :
    locally x s = (x ⟨s.verifier, ()⟩).map fun r => (r.1, ⟨r.2.verifier, s.source⟩) := by
  unfold locally
  cases x ⟨s.verifier, ()⟩ <;> rfl

/-- A run whose last state is changed. -/
theorem map_snd_eq_ok {β : Type} {e : Except (Halt R) (α × β)} {f : β → σ} {a : α} {t : σ} :
    (e.map fun r => (r.1, f r.2)) = .ok (a, t) ↔ ∃ u, e = .ok (a, u) ∧ f u = t := by
  cases e with
  | error h => simp [Except.map]
  | ok r =>
    obtain ⟨b, u⟩ := r
    simp only [Except.map, Except.ok.injEq, Prod.mk.injEq]
    constructor
    · rintro ⟨rfl, rfl⟩
      exact ⟨u, ⟨rfl, rfl⟩, rfl⟩
    · rintro ⟨_, ⟨rfl, rfl⟩, rfl⟩
      exact ⟨rfl, rfl⟩

theorem withinBounds_eq_ok {b : ErrorBounds R} {x : Run R (Session R G S) α}
    {s t : Session R G S} {a : α} :
    withinBounds b x s = .ok (a, t) ↔
      ∃ u, x { s with verifier.params := s.verifier.params.withBounds b } = .ok (a, u) ∧
        { u with verifier.params := s.verifier.params } = t := by
  rw [withinBounds_apply]
  exact map_snd_eq_ok (f := fun u : Session R G S => { u with verifier.params := s.verifier.params })

theorem nested_eq_ok {x : Run R (Session R G S) α} {s t : Session R G S} {a : α} :
    nested x s = .ok (a, t) ↔
      ∃ u, x { s with verifier.level := s.verifier.level + 1 } = .ok (a, u) ∧
        { u with verifier.level := u.verifier.level - 1 } = t := by
  rw [nested_apply]
  exact map_snd_eq_ok (f := fun u : Session R G S => { u with verifier.level := u.verifier.level - 1 })

theorem locally_eq_ok {x : Run R (Session R G Unit) α} {s t : Session R G S} {a : α} :
    locally x s = .ok (a, t) ↔
      ∃ u, x ⟨s.verifier, ()⟩ = .ok (a, u) ∧ ⟨u.verifier, s.source⟩ = t := by
  rw [locally_apply]
  exact map_snd_eq_ok (f := fun u : Session R G Unit => (⟨u.verifier, s.source⟩ : Session R G S))

theorem transition_eq (model : Model R G) (state : State R) (s : Session R G S) :
    transition model state s =
      match model state s.verifier.generator with
      | .ok r => .ok (r.1, { s with verifier.generator := r.2 })
      | .error f => .error (.fault f) := by
  have hrun : transition model state s = (ofExcept (model state s.verifier.generator) >>= fun r => do
      modifyVerifier fun v => { v with generator := r.2 }
      return r.1) s := rfl
  rw [hrun]
  cases model state s.verifier.generator <;> rfl

/-- A transition that is drawn leaves the generator behind that the model has made of it. -/
theorem transition_eq_ok {model : Model R G} {state : State R} {s t : Session R G S}
    {tr : Transition R} :
    transition model state s = .ok (tr, t) ↔
      ∃ g, model state s.verifier.generator = .ok (tr, g) ∧
        { s with verifier.generator := g } = t := by
  rw [transition_eq]
  cases model state s.verifier.generator <;> grind

/-! ### Frame conditions -/

/-- The run leaves a part of the state as it found it. -/
def Keeps (f : σ → γ) (x : Run R σ α) : Prop := ∀ s a s', x s = .ok (a, s') → f s' = f s

namespace Keeps

variable {f : σ → γ}

theorem pure (a : α) : Keeps f (Pure.pure a : Run R σ α) := by
  intro s b s' h
  obtain ⟨-, rfl⟩ := pure_eq_ok.1 h
  rfl

theorem throw (h : Halt R) : Keeps f (MonadExcept.throw h : Run R σ α) :=
  fun _ _ _ he => (throw_ne_ok he).elim

theorem bind {x : Run R σ α} {k : α → Run R σ β} (hx : Keeps f x) (hk : ∀ a, Keeps f (k a)) :
    Keeps f (x >>= k) := by
  intro s b s' h
  obtain ⟨a, t, hx', hk'⟩ := bind_eq_ok.1 h
  rw [hk a t b s' hk', hx s a t hx']

theorem ite {c : Prop} [Decidable c] {x y : Run R σ α} (hx : Keeps f x) (hy : Keeps f y) :
    Keeps f (if c then x else y) := by
  split_ifs
  exacts [hx, hy]

theorem ofExcept (x : Except (Fault R) α) : Keeps f (Run.ofExcept x) := by
  cases x with
  | error e => exact throw (.fault e)
  | ok a => exact pure a

theorem get : Keeps f (MonadState.get : Run R σ σ) := by
  intro s a s' h
  cases h
  rfl

theorem update {g : σ → σ} (hg : ∀ s, f (g s) = f s) : Keeps f (modify g : Run R σ Unit) := by
  intro s a s' h
  cases h
  exact hg s

end Keeps

end SimCheck.Run
