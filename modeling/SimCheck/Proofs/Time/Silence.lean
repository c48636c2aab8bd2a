import SimCheck.Proofs.Check
import SimCheck.Proofs.Congruence

/-!
# Runs that differ in what they report

Reports mention the states that tests start from, and the times of these.  Nothing that is checked
depends on what has been reported.

* `Session.silent`: the session without its reports;
* `Follows f x y`: up to reports `y` ends as `x` does, with a value that `f` makes of that of `x`, or
  halts alike;
* `Follows.congruence`: every operation of runs follows itself.
-/

namespace SimCheck

variable {R G S α β γ δ : Type}

/-- The session with other reports. -/
def Session.withEvents (σ : Session R G S) (es : List (Event R)) : Session R G S :=
  { σ with verifier.events := es }

/-- The session without its reports. -/
def Session.silent (σ : Session R G S) : Session R G S := σ.withEvents []

theorem Session.eq_withEvents_of_silent {σ τ : Session R G S} (h : τ.silent = σ.silent) :
    τ = σ.withEvents τ.verifier.events := by
  show τ.silent.withEvents τ.verifier.events = σ.silent.withEvents τ.verifier.events
  rw [h]

/-- From sessions that differ in their reports at most, the second run halts as the first one, or both
end in such sessions and `f` makes the second value of the first. -/
def Follows (f : α → β) (x : Run R (Session R G S) α) (y : Run R (Session R G S) β) : Prop :=
  ∀ σ es, (y (σ.withEvents es)).map (Prod.map id Session.silent)
    = (x σ).map (Prod.map f Session.silent)

namespace Follows

variable {f : α → β} {x : Run R (Session R G S) α} {y : Run R (Session R G S) β}

theorem pure {a : α} {b : β} (h : b = f a) :
    Follows f (Pure.pure a : Run R (Session R G S) α) (Pure.pure b) := by
  rw [h]
  exact fun _ _ => rfl

theorem throw (h : Halt R) :
    Follows f (MonadExcept.throw h : Run R (Session R G S) α) (MonadExcept.throw h) :=
  fun _ _ => rfl

theorem bind {g : γ → δ} {k : α → Run R (Session R G S) γ} {l : β → Run R (Session R G S) δ}
    (hxy : Follows f x y) (hkl : ∀ a, Follows g (k a) (l (f a))) :
    Follows g (x >>= k) (y >>= l) := by
  intro σ es
  have h := hxy σ es
  show ((y (σ.withEvents es)) >>= fun r => l r.1 r.2).map _ = (x σ >>= fun r => k r.1 r.2).map _
  cases hx : x σ with
  | error e =>
    cases hy : y (σ.withEvents es) with
    | error e' =>
      rw [hx, hy] at h
      cases h
      rfl
    | ok r' =>
      rw [hx, hy] at h
      cases h
  | ok r =>
    cases hy : y (σ.withEvents es) with
    | error e' =>
      rw [hx, hy] at h
      cases h
    | ok r' =>
      rw [hx, hy] at h
      obtain ⟨hvalue, hsilent⟩ := Prod.mk.inj (Except.ok.inj h)
      have hsession := Session.eq_withEvents_of_silent hsilent
      show (l r'.1 r'.2).map _ = (k r.1 r.2).map _
      rw [hsession, show r'.1 = f r.1 from hvalue]
      exact hkl r.1 r.2 _

theorem ite {c : Prop} [Decidable c] {x' : Run R (Session R G S) α} {y' : Run R (Session R G S) β}
    (h : Follows f x y) (h' : Follows f x' y') :
    Follows f (if c then x else x') (if c then y else y') := by
  split_ifs
  · exact h
  · exact h'

theorem ofExcept (e : Except (Fault R) α) :
    Follows id (Run.ofExcept e : Run R (Session R G S) α) (Run.ofExcept e) := by
  cases e with
  | error e => exact throw (.fault e)
  | ok a => exact pure rfl

theorem verifier_bind {k : Verifier R G → Run R (Session R G S) α}
    {l : Verifier R G → Run R (Session R G S) β}
    (h : ∀ v es, Follows f (k v) (l { v with events := es })) :
    Follows f (Run.verifier >>= k) (Run.verifier >>= l) :=
  fun σ es => h σ.verifier es σ es

theorem params : Follows id (Run.params : Run R (Session R G S) (Params R)) Run.params :=
  fun _ _ => rfl

theorem modifyVerifier {g g' : Verifier R G → Verifier R G}
    (h : ∀ v es, { g' { v with events := es } with events := [] } = { g v with events := [] }) :
    Follows id (Run.modifyVerifier g : Run R (Session R G S) Unit) (Run.modifyVerifier g') := by
  intro σ es
  exact congrArg (fun v => Except.ok ((), (⟨v, σ.source⟩ : Session R G S))) (h σ.verifier es)

/-- Reports may differ. -/
theorem report (e e' : Event R) :
    Follows id (Run.report e : Run R (Session R G S) Unit) (Run.report e') :=
  modifyVerifier fun _ _ => rfl

theorem withinBounds (b : ErrorBounds R) (h : Follows f x y) :
    Follows f (Run.withinBounds b x) (Run.withinBounds b y) := by
  refine bind params fun p => bind (modifyVerifier fun _ _ => rfl) fun _ => h.bind fun a => ?_
  exact bind (modifyVerifier fun _ _ => rfl) fun _ => pure rfl

theorem nested (h : Follows f x y) : Follows f (Run.nested x) (Run.nested y) := by
  refine bind (modifyVerifier fun _ _ => rfl) fun _ => h.bind fun a => ?_
  exact bind (modifyVerifier fun _ _ => rfl) fun _ => pure rfl

theorem locally {x : Run R (Session R G Unit) α} {y : Run R (Session R G Unit) β}
    (h : Follows f x y) :
    Follows f (Run.locally x : Run R (Session R G S) α) (Run.locally y) := by
  intro σ es
  have hback {γ : Type} (g : γ → β) (e : Except (Halt R) (γ × Session R G Unit)) :
      (e.map fun r => (r.1, (⟨r.2.verifier, σ.source⟩ : Session R G S))).map (Prod.map g Session.silent)
        = (e.map (Prod.map g Session.silent)).map fun r => (r.1, ⟨r.2.verifier, σ.source⟩) := by
    cases e <;> rfl
  rw [Run.locally_apply, Run.locally_apply]
  refine (hback id _).trans (Eq.trans ?_ (hback f _).symm)
  exact congrArg (Except.map _) (h ⟨σ.verifier, ()⟩ es)

theorem transition {model : Model R G} {s t : State R} (h : model s = model t) :
    Follows id (Run.transition model s : Run R (Session R G S) (Transition R))
      (Run.transition model t) := by
  intro σ es
  rw [Run.transition_eq, Run.transition_eq, h]
  have hgenerator : (σ.withEvents es).verifier.generator = σ.verifier.generator := rfl
  rw [hgenerator]
  cases model t σ.verifier.generator <;> rfl

/-- **Every operation of runs follows itself.** -/
theorem congruence [Scalar R] (model : Model R G) :
    Run.Congruence (fun _ _ => Follows id) model model where
  pure _ := pure rfl
  throw := throw
  bind := bind
  params := params
  within b h := h.withinBounds b
  nested h := h.nested
  locally := locally
  report e := report e e
  count _ := modifyVerifier fun _ _ => rfl
  transition _ := transition rfl
  readSource hk := fun σ es => hk σ.source σ es
  changeSource _ := fun _ _ => rfl

end Follows

end SimCheck
