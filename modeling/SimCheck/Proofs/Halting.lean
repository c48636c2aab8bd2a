import SimCheck.Proofs.Congruence

/-!
# How runs halt

A run halts at a fault or because its fuel is spent.  What does not go round a loop whose end depends on
chance needs no fuel, and the faults at which it halts are those of its parts.

* `Run.HaltsOnly H x`: from whatever state, `x` halts as `H` says if it halts at all;
* `HaltsOnly.bind` and its companions: the operations that runs are built from;
* `check_haltsOnly`: a check without thresholds halts at faults.
-/

namespace SimCheck

variable {R G S : Type}

/-- The fuel is not spent. -/
def Halt.IsFault (h : Halt R) : Prop := ∃ f, h = .fault f

namespace Run

variable {σ α β : Type}

/-- The run halts only as `H` says. -/
def HaltsOnly (H : Halt R → Prop) (x : Run R σ α) : Prop := ∀ s h, x s = .error h → H h

theorem bind_eq_error {x : Run R σ α} {k : α → Run R σ β} {s : σ} {h : Halt R} :
    (x >>= k) s = .error h ↔
      x s = .error h ∨ ∃ a s', x s = .ok (a, s') ∧ k a s' = .error h := by
  show (x s >>= fun p => k p.1 p.2) = .error h ↔ _
  cases hx : x s with
  | error e => simp [bind, Except.bind]
  | ok r =>
    obtain ⟨a, s'⟩ := r
    simp only [bind, Except.bind, Except.ok.injEq, Prod.mk.injEq]
    constructor
    · exact fun hk => .inr ⟨a, s', ⟨rfl, rfl⟩, hk⟩
    · rintro (hs | ⟨_, _, ⟨rfl, rfl⟩, hk⟩)
      · cases hs
      · exact hk

theorem bind_of_ok {x : Run R σ α} {k : α → Run R σ β} {s s' : σ} {a : α}
    (h : x s = .ok (a, s')) : (x >>= k) s = k a s' := by
  show (x s >>= fun p => k p.1 p.2) = _
  rw [h]
  rfl

namespace HaltsOnly

variable {H : Halt R → Prop}

theorem of_ok {x : Run R σ α} (hx : ∀ s, ∃ r, x s = .ok r) : HaltsOnly H x := by
  intro s h hs
  obtain ⟨r, hr⟩ := hx s
  rw [hr] at hs
  cases hs

theorem pure (a : α) : HaltsOnly H (Pure.pure a : Run R σ α) := of_ok fun s => ⟨(a, s), rfl⟩

theorem bind {x : Run R σ α} {k : α → Run R σ β} (hx : HaltsOnly H x)
    (hk : ∀ a, HaltsOnly H (k a)) : HaltsOnly H (x >>= k) := by
  intro s h hs
  rcases bind_eq_error.1 hs with hs | ⟨a, s', -, hs⟩
  · exact hx s h hs
  · exact hk a s' h hs

theorem ite {c : Prop} [Decidable c] {x y : Run R σ α} (hx : HaltsOnly H x) (hy : HaltsOnly H y) :
    HaltsOnly H (if c then x else y) := by
  split_ifs
  · exact hx
  · exact hy

theorem params : HaltsOnly H (Run.params : Run R (Session R G S) (Params R)) :=
  of_ok fun _ => ⟨_, rfl⟩

theorem report (e : Event R) : HaltsOnly H (Run.report e : Run R (Session R G S) Unit) :=
  of_ok fun _ => ⟨_, rfl⟩

theorem transition {model : Model R G} (hmodel : ∀ s g f, model s g = .error f → H (.fault f))
    (s : State R) : HaltsOnly H (Run.transition model s : Run R (Session R G S) (Transition R)) := by
  intro σ h hσ
  rw [transition_eq] at hσ
  cases hdrawn : model s σ.verifier.generator with
  | ok r =>
    rw [hdrawn] at hσ
    cases hσ
  | error f =>
    rw [hdrawn] at hσ
    cases hσ
    exact hmodel s _ f hdrawn

theorem withinBounds (b : ErrorBounds R) {x : Run R (Session R G S) α} (hx : HaltsOnly H x) :
    HaltsOnly H (Run.withinBounds b x) := by
  intro s h hs
  rw [withinBounds_apply] at hs
  cases hinner : x { s with verifier.params := s.verifier.params.withBounds b } with
  | ok r =>
    rw [hinner] at hs
    cases hs
  | error h' =>
    rw [hinner] at hs
    cases hs
    exact hx _ _ hinner

theorem ofExcept (x : Except (Fault R) α) :
    HaltsOnly Halt.IsFault (Run.ofExcept x : Run R σ α) := by
  cases x with
  | ok a => exact pure a
  | error f =>
    intro s h hs
    cases hs
    exact ⟨f, rfl⟩

/-- Connectives halt as their operands do. -/
theorem congruence :
    Verdict.Congruence fun (α : Type) (x _ : Run R (Session R G S) α) => HaltsOnly H x where
  pure := pure
  bind := bind
  bounds := params.bind fun _ => .pure _
  within b hx := withinBounds b hx

/-- Where a path passes a state it halts as the model and the checks of its sides do. -/
theorem stepCongruence {model : Model R G} (hmodel : ∀ s g f, model s g = .error f → H (.fault f)) :
    Run.StepCongruence (fun _ _ x _ => HaltsOnly H x) (fun _ _ x _ => HaltsOnly H x) model model where
  pure := pure
  bind := bind
  within b hx := withinBounds b hx
  report _ _ _ := report _
  transition := transition hmodel
  replays := ⟨pure, bind⟩

end HaltsOnly

end Run

open Run (HaltsOnly)

variable [Scalar R] [Distributions R]

mutual

/-- A check without thresholds draws no observations, and so it needs no fuel. -/
theorem check_haltsOnly (sim : Simulator R G) {S : Type} (src : SampleSource R S) (s : State R) :
    ∀ p : Property R, p.isProbabilistic = false → HaltsOnly Halt.IsFault (check sim src p s)
  | .expr e, _ => by
    rw [check]
    exact .ofExcept _
  | .not p, h => by
    rw [check]
    rw [Property.isProbabilistic] at h
    exact HaltsOnly.congruence.negation (y := check sim src p s) (check_haltsOnly sim src s p h)
  | .combine c head ps, h => by
    rw [check]
    rw [Property.isProbabilistic] at h
    exact Verdict.Congruence.combine_of_forall HaltsOnly.congruence
      (Option.forall_mem_map.2 fun e _ => .ofExcept _) (operands_haltsOnly sim src s ps h) c
  | .threshold .., h => by
    rw [Property.isProbabilistic] at h
    cases h

/-- So do those of operands. -/
theorem operands_haltsOnly (sim : Simulator R G) {S : Type} (src : SampleSource R S) (s : State R) :
    ∀ ps : List (Property R), Property.anyProbabilistic ps = false →
      ∀ o ∈ operands sim src ps s, HaltsOnly Halt.IsFault o.verdict
  | [], _ => by
    rw [operands]
    exact fun _ h => nomatch h
  | p :: ps, h => by
    rw [Property.anyProbabilistic, Bool.or_eq_false_iff] at h
    rw [operands]
    exact List.forall_mem_cons.2
      ⟨check_haltsOnly sim src s p h.1, operands_haltsOnly sim src s ps h.2⟩

end

end SimCheck
