import SimCheck.Proofs.Run

/-!
# Runs that agree, and why they halt

A run can halt at a fault of the model, of an expression or of a constructor, or when its fuel is spent.
Which of these it comes to, and whether it depends on what constructors do with arguments that they do
not admit, depends on the parameters.

* `Run.Safe H A x' x Q`: from parameters of which `A` holds, `x'` does what `x` does, which halts for a
  reason of which `H` holds, or ends with a value of which `Q` holds and with the parameters as they were;
* `Safe.bind` and its companions: safety is closed under everything runs are built from.
-/

namespace SimCheck.Run

variable {R G S α β : Type}

/-- From parameters of which `A` holds the two runs do the same: they end with a value of which `Q` holds
and leave the parameters as they were, or they halt for a reason of which `H` holds. -/
def Safe (H : Halt R → Prop) (A : Params R → Prop) (x' x : Run R (Session R G S) α) (Q : α → Prop) :
    Prop :=
  ∀ σ, A σ.verifier.params → x' σ = x σ ∧
    match x σ with
    | .ok (a, τ) => Q a ∧ τ.verifier.params = σ.verifier.params
    | .error h => H h

variable {H : Halt R → Prop} {A A' : Params R → Prop} {Q Q' : α → Prop}

namespace Safe

/-! ### What safety says of a run -/

section

variable {x' x : Run R (Session R G S) α} (hx : Safe H A x' x Q) {σ τ : Session R G S}
  (hσ : A σ.verifier.params)

include hx hσ

theorem eq : x' σ = x σ := (hx σ hσ).1

theorem of_ok {a : α} (h : x σ = .ok (a, τ)) : Q a ∧ τ.verifier.params = σ.verifier.params := by
  have hrun := (hx σ hσ).2
  rwa [h] at hrun

theorem of_error {h : Halt R} (he : x σ = .error h) : H h := by
  have hrun := (hx σ hσ).2
  rwa [he] at hrun

end

/-! ### Steps -/

theorem pure {a : α} (ha : Q a) :
    Safe H A (Pure.pure a : Run R (Session R G S) α) (Pure.pure a) Q :=
  fun _ _ => ⟨rfl, ha, rfl⟩

theorem throw {h : Halt R} (hh : H h) :
    Safe H A (MonadExcept.throw h : Run R (Session R G S) α) (MonadExcept.throw h) Q :=
  fun _ _ => ⟨rfl, hh⟩

theorem bind {x' x : Run R (Session R G S) α} {k' k : α → Run R (Session R G S) β} {Q' : β → Prop}
    (hx : Safe H A x' x Q) (hk : ∀ a, Q a → Safe H A (k' a) (k a) Q') :
    Safe H A (x' >>= k') (x >>= k) Q' := by
  intro σ hσ
  show (x' σ >>= fun p => k' p.1 p.2) = (x σ >>= fun p => k p.1 p.2) ∧
    match x σ >>= fun p => k p.1 p.2 with
    | .ok (a, τ) => Q' a ∧ τ.verifier.params = σ.verifier.params
    | .error h => H h
  rw [hx.eq hσ]
  cases hrun : x σ with
  | error h => exact ⟨rfl, hx.of_error hσ hrun⟩
  | ok r =>
    obtain ⟨a, τ⟩ := r
    obtain ⟨ha, hparams⟩ := hx.of_ok hσ hrun
    have hrest := hk a ha τ (hparams ▸ hσ)
    rw [hparams] at hrest
    exact hrest

theorem mono {x' x : Run R (Session R G S) α} (hx : Safe H A x' x Q) (hA : ∀ p, A' p → A p)
    (hQ : ∀ a, Q a → Q' a) : Safe H A' x' x Q' := by
  intro σ hσ
  obtain ⟨heq, hrun⟩ := hx σ (hA _ hσ)
  refine ⟨heq, ?_⟩
  cases h : x σ with
  | error e =>
    rw [h] at hrun
    exact hrun
  | ok r =>
    rw [h] at hrun
    exact ⟨hQ _ hrun.1, hrun.2⟩

theorem weaken {x' x : Run R (Session R G S) α} (hx : Safe H A x' x Q) (hA : ∀ p, A' p → A p) :
    Safe H A' x' x Q := hx.mono hA fun _ h => h

theorem ite {c : Prop} [Decidable c] {x' x y' y : Run R (Session R G S) α}
    (hx : c → Safe H A x' x Q) (hy : ¬c → Safe H A y' y Q) :
    Safe H A (if c then x' else y') (if c then x else y) Q := by
  split_ifs with hc
  exacts [hx hc, hy hc]

theorem ofExcept {x : Except (Fault R) α} (hx : ∀ f, x = .error f → H (.fault f)) :
    Safe H A (Run.ofExcept x : Run R (Session R G S) α) (Run.ofExcept x) fun _ => True := by
  cases x with
  | error f => exact .throw (hx f rfl)
  | ok a => exact .pure trivial

theorem update {g : Session R G S → Session R G S}
    (hg : ∀ σ, (g σ).verifier.params = σ.verifier.params) :
    Safe H A (modify g : Run R (Session R G S) Unit) (modify g) fun _ => True :=
  fun σ _ => ⟨rfl, trivial, hg σ⟩

theorem modifyVerifier {g : Verifier R G → Verifier R G} (hg : ∀ v, (g v).params = v.params) :
    Safe H A (Run.modifyVerifier g : Run R (Session R G S) Unit) (Run.modifyVerifier g)
      fun _ => True :=
  update fun σ => hg σ.verifier

theorem modifyStats (g : Stats R → Stats R) :
    Safe H A (Run.modifyStats g : Run R (Session R G S) Unit) (Run.modifyStats g) fun _ => True :=
  modifyVerifier fun _ => rfl

theorem report (e : Event R) :
    Safe H A (Run.report e : Run R (Session R G S) Unit) (Run.report e) fun _ => True :=
  modifyVerifier fun _ => rfl

/-- What comes after a look at the verifier begins with its parameters. -/
theorem verifier_bind {k' k : Verifier R G → Run R (Session R G S) α}
    (hk : ∀ v, A v.params → Safe H (· = v.params) (k' v) (k v) Q) :
    Safe H A (Run.verifier >>= k') (Run.verifier >>= k) Q :=
  fun σ hσ => hk σ.verifier hσ σ rfl

theorem params_bind {k' k : Params R → Run R (Session R G S) α}
    (hk : ∀ v : Verifier R G, A v.params → Safe H (· = v.params) (k' v.params) (k v.params) Q) :
    Safe H A (Run.params >>= k') (Run.params >>= k) Q :=
  fun σ hσ => hk σ.verifier hσ σ rfl

theorem bounds_bind {k' k : ErrorBounds R → Run R (Session R G S) α}
    (hk : ∀ p, A p → Safe H (· = p) (k' p.bounds) (k p.bounds) Q) :
    Safe H A (Budgeted.bounds >>= k') (Budgeted.bounds >>= k) Q :=
  fun σ hσ => hk σ.verifier.params hσ σ rfl

/-- Runs within other bounds, which the parameters admit. -/
theorem withinBounds {b : ErrorBounds R} {x' x : Run R (Session R G S) α}
    (hA : ∀ p, A p → A' (p.withBounds b)) (hx : Safe H A' x' x Q) :
    Safe H A (Run.withinBounds b x') (Run.withinBounds b x) Q := by
  intro σ hσ
  obtain ⟨heq, hrun⟩ := hx { σ with verifier.params := σ.verifier.params.withBounds b } (hA _ hσ)
  rw [Run.withinBounds_apply, Run.withinBounds_apply, heq]
  refine ⟨rfl, ?_⟩
  cases h : x { σ with verifier.params := σ.verifier.params.withBounds b } with
  | error e =>
    rw [h] at hrun
    exact hrun
  | ok r =>
    rw [h] at hrun
    exact ⟨hrun.1, rfl⟩

theorem nested {x' x : Run R (Session R G S) α} (hx : Safe H A x' x Q) :
    Safe H A (Run.nested x') (Run.nested x) Q := by
  unfold Run.nested
  refine bind (modifyVerifier fun _ => rfl) fun _ _ => hx.bind fun a ha => ?_
  exact bind (modifyVerifier fun _ => rfl) fun _ _ => pure ha

theorem locally {x' x : Run R (Session R G Unit) α} (hx : Safe H A x' x Q) :
    Safe H A (Run.locally x' : Run R (Session R G S) α) (Run.locally x) Q := by
  intro σ hσ
  obtain ⟨heq, hrun⟩ := hx ⟨σ.verifier, ()⟩ hσ
  rw [Run.locally_apply, Run.locally_apply, heq]
  refine ⟨rfl, ?_⟩
  cases h : x ⟨σ.verifier, ()⟩ with
  | error e =>
    rw [h] at hrun
    exact hrun
  | ok r =>
    rw [h] at hrun
    exact hrun

theorem transition {model : Model R G} {s : State R}
    (hmodel : ∀ g f, model s g = .error f → H (.fault f)) :
    Safe H A (Run.transition model s : Run R (Session R G S) (Transition R))
      (Run.transition model s) fun _ => True := by
  unfold Run.transition
  refine verifier_bind fun v _ => bind (ofExcept fun f hf => hmodel _ f hf) fun r _ => ?_
  exact bind (modifyVerifier fun _ => rfl) fun _ _ => pure trivial

end Safe

end SimCheck.Run
