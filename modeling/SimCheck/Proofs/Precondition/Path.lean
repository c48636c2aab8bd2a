import SimCheck.Proofs.Congruence
import SimCheck.Proofs.Precondition.Run

/-!
# Why the simulation of a path halts

Deferred checks run within shares of the budget of their path.  If the parameters admit these shares,
then a path halts for no other reasons than the model and the checks of its sides.

* `Spends A B`: parameters of which `A` holds admit the shares of a budget of which `B` holds, and half
  of it can be spent at a time;
* `Safe.basic`, `Safe.sequencing`: what changes no bounds keeps runs safe;
* `Safe.resolve`, `Safe.visit`, `Safe.advance`: the steps of a walk, one lemma for each of them;
* `Safe.simulate`: whole paths.
-/

namespace SimCheck

variable {R G : Type} {H : Halt R → Prop} {A : Params R → Prop} {B : R → Prop}

/-- The two runs do the same, and halt for no other reason than those of which `H` holds. -/
abbrev Run.Safely (H : Halt R → Prop) (A : Params R → Prop) : RunRelation R G G :=
  fun _ _ x' x => Run.Safe H A x' x fun _ => True

variable [Scalar R]

/-- The parameters admit the shares of a budget, of which half can be spent at a time. -/
structure Spends (A : Params R → Prop) (B : R → Prop) : Prop where
  halves : ∀ x, B x → B (x / 2.0) ∧ B (x - x / 2.0)
  shares : ∀ p x (n : ℕ), A p → B x → 1 ≤ n → A (p.withBounds (.both (x / (n : R))))

/-- Where nothing is asked of the parameters there is nothing to be admitted. -/
theorem Spends.always : Spends (fun _ : Params R => True) fun _ => True :=
  ⟨fun _ _ => ⟨trivial, trivial⟩, fun _ _ _ _ _ _ => trivial⟩

/-- The budget of a walk that goes on. -/
def Progress.Funded (B : R → Prop) : Progress R → Prop
  | .ended _ => True
  | .ongoing w => B w.trace.budget

omit [Scalar R] in
theorem Trace.budget_push (t : Trace R) (s : Step R) : (t.push s).budget = t.budget := by
  unfold Trace.push
  split_ifs <;> rfl

namespace Run.Safe

omit [Scalar R] in
/-- Safety is respected by what changes neither parameters nor bounds. -/
theorem basic (hfuel : H .outOfFuel) : BasicCongruence (Safely (G := G) H A) where
  pure _ := pure trivial
  bind hx hk := bind hx fun a _ => hk a
  outOfFuel := throw hfuel
  locally := locally
  readSource hk := fun σ hσ => hk σ.source σ hσ
  changeSource _ := update fun _ => rfl

omit [Scalar R] in
theorem sequencing {S : Type} : Verdict.Sequencing (Safely (G := G) H A S) where
  pure _ := pure trivial
  bind hx hk := bind hx fun a _ => hk a

/-! ### Pending checks -/

theorem resolve {check' check : Side → State R → Run R (Session R G Unit) Bool}
    (hcheck : ∀ side s, Safely H A Unit Bool (check' side s) (check side s)) (hspends : Spends A B)
    (t : Trace R) {bound : R} (hbound : B bound) :
    Safe H A (t.resolve check' bound) (t.resolve check bound) fun r => r.2.budget = t.budget := by
  have hshare (p : Params R) (hp : A p) :=
    hspends.shares p bound _ hp hbound (Nat.le_max_left 1 t.checkCount)
  have hreplay := sequencing.replay hcheck t.pending.reverse t.preVerdicts
  exact bind (withinBounds hshare hreplay) fun _ _ => pure rfl

/-! ### States -/

section Walk

variable {u' u : UntilCheck R G} (hu : u'.Related (Safely H A) u) {model : Model R G}
  (hmodel : ∀ s g f, model s g = .error f → H (.fault f))

include hu

omit [Scalar R] in
theorem record (side : Side) (s : State R) (t : Trace R) :
    Safe H A (u'.record side s t) (u.record side s t) fun r => r.1.budget = t.budget := by
  unfold UntilCheck.record UntilCheck.observe
  rw [hu.probabilistic]
  refine bind (Q := fun _ => True) (ite (fun _ => pure trivial) fun _ => ?_) fun step _ =>
    pure (t.budget_push step)
  exact bind (hu.check side s) fun _ _ => pure trivial

include hmodel in
theorem visit (elapsed : R) (s : State R) (t : Trace R) :
    Safe H A (Walk.visit model u' elapsed s t) (Walk.visit model u elapsed s t)
      fun v => v.trace.budget = t.budget := by
  unfold Walk.visit
  rw [hu.lower]
  refine ite (fun _ => ?opened) fun _ => ?closed
  case opened =>
    refine bind (record hu .post s t) fun r hr => ite (fun _ => pure hr) fun _ => ?_
    exact bind (record hu .pre s r.1) fun r' hr' => pure (hr'.trans hr)
  case closed =>
    refine bind (record hu .pre s t) fun r hr => ite (fun _ => pure hr) fun _ => ?_
    refine bind (transition (hmodel s)) fun drawn _ => ite (fun _ => ?_) fun _ => pure hr
    exact bind (record hu .post s r.1) fun r' hr' => pure (hr'.trans hr)

/-! ### Walks -/

variable (hspends : Spends A B)

include hspends

theorem finish {t : Trace R} (ht : B t.budget) (length : ℕ) (cutOff : Bool) :
    Safe H A (Walk.finish u' t length cutOff) (Walk.finish u t length cutOff)
      (Progress.Funded B) :=
  bind (resolve hu.check hspends t ht) fun _ _ => pure trivial

theorem resolvePrefix {t : Trace R} (ht : B t.budget) (length : ℕ) :
    Safe H A (Walk.resolvePrefix u' t length) (Walk.resolvePrefix u t length)
      fun r => B r.2.budget := by
  obtain ⟨hspent, hleft⟩ := hspends.halves _ ht
  unfold Walk.resolvePrefix
  rw [hu.id]
  refine bind (report _) fun _ _ =>
    (resolve hu.check hspends _ hspent).mono (fun _ h => h) fun r hr => ?_
  rw [hr]
  exact hleft

theorem leave (origin : R) {w : Walk R} (hw : B w.trace.budget) (t : Transition R) :
    Safe H A (Walk.leave u' origin w t) (Walk.leave u origin w t) (Progress.Funded B) := by
  unfold Walk.leave
  rw [hu.upper]
  exact ite (fun _ => finish hu hspends hw _ _) fun _ =>
    ite (fun _ => finish hu hspends hw _ _) fun _ => pure hw

include hmodel

theorem goOn (origin : R) {w : Walk R} (hw : B w.trace.budget) (drawn : Option (Transition R)) :
    Safe H A (Walk.goOn model u' origin w drawn) (Walk.goOn model u origin w drawn)
      (Progress.Funded B) := by
  refine params_bind fun v hv => weaken (A := A) ?_ fun p hp => hp ▸ hv
  refine ite (fun _ => finish hu hspends hw _ _) fun _ => ?_
  cases drawn with
  | some t =>
    exact bind (Q := fun _ => True) (pure trivial) fun t _ => leave hu hspends origin hw t
  | none => exact bind (transition (hmodel w.state)) fun t _ => leave hu hspends origin hw t

theorem advance (origin : R) {w : Walk R} (hw : B w.trace.budget) :
    Safe H A (Walk.advance model u' origin w) (Walk.advance model u origin w)
      (Progress.Funded B) := by
  refine bind (visit hu hmodel _ _ _) fun v hv => ?_
  have hbudget : B v.trace.budget := hv ▸ hw
  refine ite (fun _ => finish hu hspends hbudget _ _) fun _ => ite (fun _ => ?_) fun _ => ?_
  · refine bind (resolvePrefix hu hspends hbudget _) fun r hr => ?_
    obtain ⟨outcome, t⟩ := r
    cases outcome with
    | «open» =>
      exact goOn hu hmodel hspends origin (w := { w with checkpoint := _, trace := t }) hr _
    | satisfied => exact pure trivial
    | violated => exact pure trivial
  · exact goOn hu hmodel hspends origin (w := { w with trace := v.trace }) hbudget _

variable (hfuel : H .outOfFuel)

include hfuel

theorem walk (origin : R) (fuel : ℕ) {w : Walk R} (hw : B w.trace.budget) :
    Safe H A (Walk.run model u' origin fuel w) (Walk.run model u origin fuel w) fun _ => True := by
  induction fuel generalizing w with
  | zero => exact throw hfuel
  | succ fuel ih =>
    refine bind (advance hu hmodel hspends origin hw) fun p hp => ?_
    cases p with
    | ended path => exact pure trivial
    | ongoing w => exact ih hp

/-- **A path within its budget halts for no other reasons than the model and its sides.** -/
theorem simulate (fuel : ℕ) (s : State R) {budget : R} (hbudget : B budget) :
    Safe H A (SimCheck.simulate ⟨model, fuel⟩ u' s budget) (SimCheck.simulate ⟨model, fuel⟩ u s budget)
      fun _ => True := by
  refine bind (walk hu hmodel hspends hfuel s.time fuel (w := .start s budget) hbudget) fun path _ => ?_
  refine bind (modifyStats _) fun _ _ => ?_
  split_ifs
  · exact bind (modifyStats _) fun _ _ => pure trivial
  · exact pure trivial

end Walk

end Run.Safe

end SimCheck
