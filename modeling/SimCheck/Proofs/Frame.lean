import SimCheck.Proofs.Congruence
import SimCheck.Proofs.Check

/-!
# Frames

What a check may change of a verifier is soon told: it draws from the generator, counts, reports and
stores samples, and it works for a while within other error bounds or at a deeper level.  Whatever
part of the verifier survives each of these survives every check.

* `Frame stored f`: the part `f` survives, as long as only samples of `stored` path properties are
  stored;
* `Frame.simulate`: a path whose sides leave the part alone leaves it alone;
* `Frame.check`: so does a check that tests only `stored` path properties.
-/

namespace SimCheck

open Run (Keeps)

variable {R G S α γ : Type}

/-- A part of the verifier that no step of a check touches, or that is restored after it. -/
structure Frame (stored : PropertyId → Prop) (f : Verifier R G → γ) : Prop where
  generator : ∀ v generator, f { v with generator } = f v
  stats : ∀ v stats, f { v with stats } = f v
  events : ∀ v events, f { v with events } = f v
  cache : ∀ v k s, stored k.property → f { v with cache := v.cache.insert k s } = f v
  /-- The parameters are put back when other bounds are no longer in force. -/
  params : ∀ v w p, f w = f { v with params := p } → f { w with params := v.params } = f v
  level : ∀ v w, f w = f { v with level := v.level + 1 } → f { w with level := w.level - 1 } = f v

/-- A part of the verifier of a session. -/
def Session.part (f : Verifier R G → γ) (s : Session R G S) : γ := f s.verifier

/-- The checks of both sides leave a part of the verifier alone. -/
def UntilCheck.KeepsPart (u : UntilCheck R G) (f : Verifier R G → γ) : Prop :=
  ∀ side s, Keeps (Session.part f) ((u.side side).check s)

namespace Run

variable {f : Verifier R G → γ}

theorem verifier_keeps : Keeps (Session.part f) (verifier : Run R (Session R G S) (Verifier R G)) :=
  Keeps.get.bind fun _ => .pure _

theorem params_keeps : Keeps (Session.part f) (params : Run R (Session R G S) (Params R)) :=
  verifier_keeps.bind fun _ => .pure _

theorem locally_keeps {x : Run R (Session R G Unit) α} (hx : Keeps (Session.part f) x) :
    Keeps (Session.part f) (locally x : Run R (Session R G S) α) := by
  intro s a t h
  unfold locally at h
  split at h
  · rename_i b u hu
    cases h
    exact hx _ _ _ hu
  · cases h

end Run

namespace Frame

variable {stored : PropertyId → Prop} {f : Verifier R G → γ} (hf : Frame stored f)

include hf

/-! ### Primitives -/

omit hf in
theorem bounds :
    Keeps (Session.part f) (Budgeted.bounds : Run R (Session R G S) (ErrorBounds R)) :=
  Run.params_keeps.bind fun _ => .pure _

theorem modifyStats (g : Stats R → Stats R) :
    Keeps (Session.part f) (Run.modifyStats g : Run R (Session R G S) Unit) :=
  .update fun s => hf.stats s.verifier _

theorem report (e : Event R) :
    Keeps (Session.part f) (Run.report e : Run R (Session R G S) Unit) :=
  .update fun s => hf.events s.verifier _

theorem transition (model : Model R G) (s : State R) :
    Keeps (Session.part f) (Run.transition model s : Run R (Session R G S) (Transition R)) := by
  intro σ t σ' h
  obtain ⟨g, -, rfl⟩ := Run.transition_eq_ok.1 h
  exact hf.generator σ.verifier g

theorem withinBounds (b : ErrorBounds R) {x : Run R (Session R G S) α}
    (hx : Keeps (Session.part f) x) : Keeps (Session.part f) (Run.withinBounds b x) := by
  intro s a t h
  obtain ⟨u, hu, rfl⟩ := Run.withinBounds_eq_ok.1 h
  exact hf.params s.verifier u.verifier _ (hx { s with verifier.params := _ } a u hu)

theorem nested {x : Run R (Session R G S) α} (hx : Keeps (Session.part f) x) :
    Keeps (Session.part f) (Run.nested x) := by
  intro s a t h
  obtain ⟨u, hu, rfl⟩ := Run.nested_eq_ok.1 h
  exact hf.level s.verifier u.verifier (hx _ _ _ hu)

/-! ### Paths -/

/-- **A part that survives every step survives whatever is built from steps.** -/
theorem congruence [Scalar R] (model : Model R G) :
    Run.Congruence (fun _ _ x _ => Keeps (Session.part f) x) model model where
  pure := .pure
  throw := .throw
  bind := .bind
  params := Run.params_keeps
  within b hx := hf.withinBounds b hx
  nested hx := hf.nested hx
  locally hx := Run.locally_keeps hx
  report := hf.report
  count t := hf.modifyStats (·.add t)
  transition := hf.transition model
  readSource hk := Keeps.get.bind fun σ => hk σ.source
  changeSource _ := .update fun _ => rfl

omit hf in
/-- Checks that leave a part alone are related to themselves. -/
theorem related {u : UntilCheck R G} (hu : u.KeepsPart f) :
    u.Related (fun _ _ x _ => Keeps (Session.part f) x) u :=
  ⟨rfl, rfl, rfl, fun _ => rfl, hu⟩

/-- A path leaves alone what its sides leave alone. -/
theorem simulate [Scalar R] {u : UntilCheck R G} (hu : u.KeepsPart f) (sim : Simulator R G)
    (s : State R) (budget : R) : Keeps (Session.part f) (SimCheck.simulate sim u s budget) :=
  (hf.congruence sim.model).simulate (related hu) sim.fuel s budget

/-! ### Tests -/

section Tests

variable [Scalar R] [Distributions R] {u : UntilCheck R G} (hu : u.KeepsPart f)

theorem completeTest (model : Model R G) (src : SampleSource R S) (id : PropertyId) (s : State R)
    {path : Run R (Session R G Unit) Bool} (hpath : Keeps (Session.part f) path) (fuel : Nat)
    (t : ThresholdTest R) : Keeps (Session.part f) (SimCheck.completeTest src id s path fuel t) :=
  @Run.BasicCongruence.completeTest _ _ _ _ (hf.congruence model).toBasicCongruence _ path path hpath _ _ src
    id s fuel t

omit hf in
theorem openTest (u : UntilCheck R G) (bound : R) (s : State R) :
    Keeps (Session.part f) (SimCheck.openTest u bound s : Run R (Session R G S) (ThresholdTest R)) := by
  refine Run.verifier_keeps.bind fun v => (Keeps.ofExcept _).bind fun t => .ite ?_ (.pure _)
  cases v.cache.get? ⟨u.id, s.values⟩ with
  | some sample => exact .pure _
  | none => exact .pure _

omit [Distributions R] in
theorem closeTest (hid : stored u.id) (s : State R) (t : ThresholdTest R) :
    Keeps (Session.part f) (SimCheck.closeTest u s t : Run R (Session R G S) Unit) := by
  intro σ _ σ' h
  rw [closeTest_eq] at h
  cases h
  have hrest (stats : Stats R) (events : List (Event R)) :
      f { σ.verifier with stats, events } = f σ.verifier :=
    (hf.events { σ.verifier with stats } events).trans (hf.stats σ.verifier stats)
  have hstore (stats : Stats R) (events : List (Event R)) :
      f { σ.verifier with
        stats, events, cache := σ.verifier.cache.insert ⟨u.id, s.values⟩ t.sample }
          = f σ.verifier :=
    (hf.cache { σ.verifier with stats, events } ⟨u.id, s.values⟩ t.sample hid).trans
      (hrest stats events)
  show f (σ.verifier.close u s t) = f σ.verifier
  unfold Verifier.close
  cases σ.verifier.params.memoization with
  | false => exact hrest _ _
  | true => exact hstore _ _

include hu

theorem runTest (hid : stored u.id) (sim : Simulator R G) (src : SampleSource R S) (bound : R)
    (s : State R) : Keeps (Session.part f) (SimCheck.runTest sim src u bound s) := by
  refine (openTest u bound s).bind fun t => Run.params_keeps.bind fun p => ?_
  refine (hf.completeTest sim.model src u.id s (hf.simulate hu sim s _) _ t).bind fun t => ?_
  exact (hf.closeTest hid s t).bind fun _ => .pure _

theorem checkThreshold (hid : stored u.id) (sim : Simulator R G) (src : SampleSource R S)
    (op : ThresholdOp) (bound : R) (s : State R) :
    Keeps (Session.part f) (SimCheck.checkThreshold sim src u op bound s) := by
  unfold SimCheck.checkThreshold
  cases Property.trivialVerdict? op bound with
  | some verdict => exact .pure _
  | none => exact hf.nested (hf.runTest hu hid sim src bound s)

end Tests

/-! ### Connectives -/

theorem combine [Scalar R] (c : Connective) {head : Option (Run R (Session R G S) Bool)}
    {ops : List (Operand (Run R (Session R G S)))}
    (hhead : ∀ v ∈ head, Keeps (Session.part f) v)
    (hops : ∀ o ∈ ops, Keeps (Session.part f) o.verdict) :
    Keeps (Session.part f) (Verdict.combine c head ops) := by
  have hverdicts : Verdict.Congruence fun α (x _ : Run R (Session R G S) α) =>
      Keeps (Session.part f) x := ⟨⟨.pure, .bind⟩, bounds, fun b h => hf.withinBounds b h⟩
  exact Verdict.Congruence.combine_of_forall hverdicts hhead hops c

end Frame

/-! ### Properties -/

variable [Scalar R] [Distributions R]

mutual

/-- **A check leaves a part of the verifier alone if the samples it stores do not belong to it.** -/
theorem Frame.check {stored : PropertyId → Prop} {f : Verifier R G → γ} (hf : Frame stored f)
    (sim : Simulator R G) {S : Type} (src : SampleSource R S) :
    ∀ (p : Property R) (s : State R), (∀ path ∈ p.pathList, stored path.id) →
      Keeps (Session.part f) (SimCheck.check sim src p s)
  | .expr e, s, _ => .ofExcept _
  | .not p, s, h =>
    Frame.bounds.bind fun _ =>
      (hf.withinBounds _ (hf.check sim src p s h)).bind fun _ => .pure _
  | .combine c head ps, s, h => by
    exact hf.combine c (Option.forall_mem_map.2 fun e _ => .ofExcept _) (hf.operands sim src ps s h)
  | .threshold op bound (.until id lower upper pre post), s, h => by
    obtain ⟨hid, hsides⟩ := List.forall_mem_cons.1 h
    obtain ⟨hpre, hpost⟩ := List.forall_mem_append.1 hsides
    refine hf.checkThreshold ?_ hid sim src op bound s
    intro side t
    cases side with
    | pre => exact hf.check sim (.simulating R) pre t hpre
    | post => exact hf.check sim (.simulating R) post t hpost

/-- So do the operands of a connective. -/
theorem Frame.operands {stored : PropertyId → Prop} {f : Verifier R G → γ} (hf : Frame stored f)
    (sim : Simulator R G) {S : Type} (src : SampleSource R S) :
    ∀ (ps : List (Property R)) (s : State R), (∀ path ∈ Property.pathLists ps, stored path.id) →
      ∀ o ∈ SimCheck.operands sim src ps s, Keeps (Session.part f) o.verdict
  | [], _, _, _, ho => (List.not_mem_nil ho).elim
  | p :: ps, s, h, o, ho => by
    obtain ⟨hp, hps⟩ := List.forall_mem_append.1 h
    rcases List.mem_cons.1 ho with rfl | ho
    · exact hf.check sim src p s hp
    · exact hf.operands sim src ps s hps o ho

end

end SimCheck
