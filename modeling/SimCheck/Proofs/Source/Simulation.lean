import SimCheck.Proofs.Check
import SimCheck.Proofs.ErrorBudget.Layer

/-!
# Simulations between sources

Two sources that answer alike, for related states, give the same verifications: the verifier sees
nothing of a source but its answers.

* `Matches ρ ρ' x y`: from sources that `ρ` relates the runs `x` and `y` end alike, and `ρ'` relates the
  sources afterwards;
* `Draw.Matches`, `SampleSource.Simulates`: two requests, and two sources, that answer alike;
* `SampleSource.Simulates.verify`: then verifications match.
-/

namespace SimCheck

variable {R G S T α β : Type}

/-! ### Runs with different sources -/

/-- Two runs have ended: both have halted for the same reason, or they have the same value and verifier,
and `ρ` relates their sources. -/
inductive EndMatch (ρ : S → T → Prop) :
    Except (Halt R) (α × Session R G S) → Except (Halt R) (α × Session R G T) → Prop
  | halted (h : Halt R) : EndMatch ρ (.error h) (.error h)
  | ended (a : α) (v : Verifier R G) {s : S} {t : T} (h : ρ s t) :
      EndMatch ρ (.ok (a, ⟨v, s⟩)) (.ok (a, ⟨v, t⟩))

/-- From sources that `ρ` relates the two runs end alike, with sources that `ρ'` relates. -/
def Matches (ρ ρ' : S → T → Prop) (x : Run R (Session R G S) α) (y : Run R (Session R G T) α) : Prop :=
  ∀ (v : Verifier R G) {s : S} {t : T}, ρ s t → EndMatch ρ' (x ⟨v, s⟩) (y ⟨v, t⟩)

namespace Matches

variable {ρ ρ' ρ'' : S → T → Prop} {x : Run R (Session R G S) α} {y : Run R (Session R G T) α}

/-- If one run ends, so does the other one. -/
theorem exists_of_ok (h : Matches ρ ρ' x y) {v : Verifier R G} {s : S} {t : T} (hst : ρ s t) {a : α}
    {τ : Session R G T} (hy : y ⟨v, t⟩ = .ok (a, τ)) :
    ∃ s', x ⟨v, s⟩ = .ok (a, ⟨τ.verifier, s'⟩) ∧ ρ' s' τ.source := by
  have hx := h v hst
  rw [hy] at hx
  generalize x ⟨v, s⟩ = r at hx ⊢
  cases hx with
  | ended a w hsource => exact ⟨_, rfl, hsource⟩

theorem pure (a : α) :
    Matches ρ ρ (Pure.pure a : Run R (Session R G S) α) (Pure.pure a : Run R (Session R G T) α) :=
  fun v _ _ h => .ended a v h

theorem throw (h : Halt R) :
    Matches ρ ρ' (MonadExcept.throw h : Run R (Session R G S) α)
      (MonadExcept.throw h : Run R (Session R G T) α) :=
  fun _ _ _ _ => .halted h

theorem ofExcept (e : Except (Fault R) α) :
    Matches ρ ρ (Run.ofExcept e : Run R (Session R G S) α)
      (Run.ofExcept e : Run R (Session R G T) α) := by
  cases e with
  | error e => exact throw (.fault e)
  | ok a => exact pure a

theorem bind {f : α → Run R (Session R G S) β} {g : α → Run R (Session R G T) β}
    (hx : Matches ρ ρ' x y) (hf : ∀ a, Matches ρ' ρ'' (f a) (g a)) :
    Matches ρ ρ'' (x >>= f) (y >>= g) := by
  intro v s t h
  show EndMatch ρ'' (x ⟨v, s⟩ >>= fun r => f r.1 r.2) (y ⟨v, t⟩ >>= fun r => g r.1 r.2)
  have hfirst := hx v h
  generalize x ⟨v, s⟩ = r at hfirst ⊢
  generalize y ⟨v, t⟩ = r' at hfirst ⊢
  cases hfirst with
  | halted e => exact .halted e
  | ended a v h => exact hf a v h

/-- Both runs read the same verifier. -/
theorem verifier_bind {f : Verifier R G → Run R (Session R G S) β}
    {g : Verifier R G → Run R (Session R G T) β} (hf : ∀ v, Matches ρ ρ' (f v) (g v)) :
    Matches ρ ρ' (Run.verifier >>= f) (Run.verifier >>= g) :=
  fun v _ _ h => hf v v h

theorem params_bind {f : Params R → Run R (Session R G S) β} {g : Params R → Run R (Session R G T) β}
    (hf : ∀ p, Matches ρ ρ' (f p) (g p)) : Matches ρ ρ' (Run.params >>= f) (Run.params >>= g) :=
  fun v _ _ h => hf v.params v h

theorem modifyVerifier (g : Verifier R G → Verifier R G) :
    Matches ρ ρ (Run.modifyVerifier g : Run R (Session R G S) Unit)
      (Run.modifyVerifier g : Run R (Session R G T) Unit) :=
  fun v _ _ h => .ended () (g v) h

theorem changeSource {f : S → S} {g : T → T} (hf : ∀ {s t}, ρ s t → ρ' (f s) (g t)) :
    Matches ρ ρ' (modify fun σ => { σ with source := f σ.source } : Run R (Session R G S) Unit)
      (modify fun σ => { σ with source := g σ.source } : Run R (Session R G T) Unit) :=
  fun v _ _ h => .ended () v (hf h)

theorem nested (hx : Matches ρ ρ' x y) : Matches ρ ρ' (Run.nested x) (Run.nested y) := by
  unfold Run.nested
  exact (modifyVerifier _).bind fun _ => hx.bind fun a => (modifyVerifier _).bind fun _ => pure a

theorem withinBounds (b : ErrorBounds R) (hx : Matches ρ ρ' x y) :
    Matches ρ ρ' (Run.withinBounds b x) (Run.withinBounds b y) := by
  unfold Run.withinBounds
  exact params_bind fun p => (modifyVerifier _).bind fun _ => hx.bind fun a =>
    (modifyVerifier _).bind fun _ => pure a

/-- A simulation does not see the source. -/
theorem locally (x : Run R (Session R G Unit) α) :
    Matches ρ ρ (Run.locally x : Run R (Session R G S) α) (Run.locally x : Run R (Session R G T) α) := by
  intro v s t h
  rw [Run.locally_apply, Run.locally_apply]
  cases x ⟨v, ()⟩ with
  | error e => exact .halted e
  | ok r => exact .ended r.1 r.2.verifier h

/-- Connectives do not see the source. -/
theorem congruence (ρ : S → T → Prop) :
    Verdict.Congruence fun α (x : Run R (Session R G S) α) (y : Run R (Session R G T) α) =>
      Matches ρ ρ x y where
  pure := pure
  bind := bind
  bounds := params_bind fun _ => pure _
  within := withinBounds

end Matches

/-! ### Requests and sources -/

/-- Two requests take the same course. -/
inductive Draw.Matches (ρ : S → T → Prop) : Draw S → Draw T → Prop
  | answer (b : Bool) {s : S} {t : T} (h : ρ s t) : Draw.Matches ρ (.answer b s) (.answer b t)
  | simulate {f : Bool → Draw S} {g : Bool → Draw T} (h : ∀ b, Draw.Matches ρ (f b) (g b)) :
      Draw.Matches ρ (.simulate f) (.simulate g)
  | stalled : Draw.Matches ρ .stalled .stalled

theorem Draw.Matches.follow {ρ ρ' : S → T → Prop} {d : Draw S} {e : Draw T} (h : d.Matches ρ' e)
    (path : Run R (Session R G Unit) Bool) :
    SimCheck.Matches ρ ρ' (Run.follow path d) (Run.follow path e) := by
  induction h with
  | answer b h => exact (SimCheck.Matches.changeSource fun _ => h).bind fun _ => .pure b
  | simulate _ ih => exact (SimCheck.Matches.locally path).bind fun b => ih b
  | stalled => exact .throw _

/-- The first source answers as the second does: `idle` relates their states between runs and `busy`
within runs, which begin at states with `P`. -/
structure SampleSource.Simulates (src : SampleSource R S) (src' : SampleSource R T)
    (P : State R → Prop) (idle busy : S → T → Prop) : Prop where
  beginRun (id : PropertyId) {state : State R} {s : S} {t : T} : P state → idle s t →
    busy (src.beginRun id state s) (src'.beginRun id state t)
  next {s : S} {t : T} : busy s t → (src.next s).Matches busy (src'.next t)
  endRun (id : PropertyId) {s : S} {t : T} : busy s t → idle (src.endRun id s) (src'.endRun id t)

/-! ### Tests and verifications -/

section Verifications

variable [Scalar R] {ρ : S → T → Prop}

theorem closeTest_matches (u : UntilCheck R G) (s : State R) (t : ThresholdTest R) :
    Matches ρ ρ (closeTest u s t : Run R (Session R G S) _) (closeTest u s t : Run R (Session R G T) _) := by
  intro v s' t' h
  rw [closeTest_eq, closeTest_eq]
  exact .ended () _ h

variable [Distributions R]

theorem openTest_matches (u : UntilCheck R G) (bound : R) (s : State R) :
    Matches ρ ρ (openTest u bound s : Run R (Session R G S) _)
      (openTest u bound s : Run R (Session R G T) _) := by
  refine Matches.verifier_bind fun v => (Matches.ofExcept _).bind fun t => ?_
  split_ifs
  · cases v.cache.get? ⟨u.id, s.values⟩ with
    | some sample => exact .pure _
    | none => exact .pure _
  · exact .pure t

namespace SampleSource.Simulates

variable {src : SampleSource R S} {src' : SampleSource R T} {P : State R → Prop}
  {idle busy : S → T → Prop} (h : src.Simulates src' P idle busy)

include h

theorem observeUntilDone (path : Run R (Session R G Unit) Bool) (fuel : ℕ) (t : ThresholdTest R) :
    Matches busy busy (SimCheck.observeUntilDone src path fuel t)
      (SimCheck.observeUntilDone src' path fuel t) := by
  induction fuel generalizing t with
  | zero => exact ite_related (P := fun _ => Matches busy busy) (.pure t) (.throw _)
  | succ fuel ih =>
    refine ite_related (P := fun _ => Matches busy busy) (.pure t) ?_
    have hdraw : Matches busy busy (Run.draw src path) (Run.draw src' path) :=
      fun v _ _ hbusy => (h.next hbusy).follow path v hbusy
    exact hdraw.bind fun b => ih (t.push b)

variable {s : State R} (hs : P s)

include hs

theorem completeTest (id : PropertyId) (path : Run R (Session R G Unit) Bool) (fuel : ℕ)
    (t : ThresholdTest R) :
    Matches idle idle (SimCheck.completeTest src id s path fuel t)
      (SimCheck.completeTest src' id s path fuel t) := by
  refine ite_related (P := fun _ => Matches idle idle) (.pure t) ?_
  refine (Matches.changeSource fun hidle => h.beginRun id hs hidle).bind fun _ => ?_
  refine (h.observeUntilDone path fuel t).bind fun t => ?_
  exact (Matches.changeSource fun hbusy => h.endRun id hbusy).bind fun _ => .pure t

theorem runTest (sim : Simulator R G) (u : UntilCheck R G) (bound : R) :
    Matches idle idle (SimCheck.runTest sim src u bound s) (SimCheck.runTest sim src' u bound s) := by
  refine (openTest_matches u bound s).bind fun t => Matches.params_bind fun p => ?_
  refine (h.completeTest hs u.id _ sim.fuel t).bind fun t => ?_
  exact (closeTest_matches u s t).bind fun _ => .pure _

/-- **Sources that answer alike give the same verifications.** -/
theorem verify (sim : Simulator R G) (p : Property R) :
    Matches idle idle (Session.verify sim src p s : Run R (Session R G S) Bool)
      (Session.verify sim src' p s) := by
  refine (Matches.modifyVerifier _).bind fun _ => ?_
  rw [check_eq_decide sim src s [] p, check_eq_decide sim src' s [] p]
  -- Connectives see verdicts only, so it is left that each test matches.
  refine (Matches.congruence idle).decide (fun e => .ofExcept _) (fun site bound path => ?_) [] p
  exact .nested (h.runTest hs sim (path.checks sim) bound)

end SampleSource.Simulates

end Verifications

end SimCheck
