import Mathlib.Data.List.Forall2
import Mathlib.Data.Option.Basic
import SimCheck.Verifier.Query
import SimCheck.Proofs.Run

/-!
# Relations between runs

Runs are built from a few operations.  A relation that each of them respects holds between whatever is
built from related parts in the same way: between two combinations of verdicts, in whichever monads,
between two loops that draw observations, and between the simulations of two paths whose sides are
related.

* `Verdict.Sequencing P`, `Verdict.Congruence P`: the operations of connectives respect the relation `P`;
* `Verdict.Congruence.negation`, `Verdict.Congruence.combine`: connectives, and
  `Verdict.Congruence.combine_of_forall` for what is said of one run alone;
* `Run.BasicCongruence P`: so do the operations that observations are drawn with, for runs whose
  generators may differ;
* `Run.BasicCongruence.completeTest`, `Verdict.Sequencing.replay`: observations and pending checks;
* `Run.Congruence P`: so do all operations of runs; `Stats.add` is how paths change the statistics;
* `Run.StepCongruence P Q`, `Run.PathCongruence P Q`: the states of a path, and paths, respect `P` if
  what is checked within bounds of its own respects `Q`;
* `Run.StepCongruence.visit`, `Run.StepCongruence.advance`: one state;
* `Run.PathCongruence.simulate`, `Run.Congruence.simulate`: paths;
* `Run.Congruence.check`: whole checks.
-/

namespace SimCheck

variable {R : Type}

/-! ### Connectives -/

/-- Two branches are related if they are taken in the same case. -/
theorem ite_related {m' m : Type → Type} {P : ∀ α : Type, m' α → m α → Prop} {α : Type} {c : Prop}
    [Decidable c] {x x' : m' α} {y y' : m α} (hxy : P α x y) (hxy' : P α x' y') :
    P α (if c then x else x') (if c then y else y') := by
  split_ifs
  · exact hxy
  · exact hxy'

namespace Verdict

variable {m' m : Type → Type} [Monad m'] [Monad m] [Budgeted R m'] [Budgeted R m]

/-- What lists of verdicts are decided with respects a relation. -/
structure Sequencing (P : ∀ α : Type, m' α → m α → Prop) : Prop where
  pure : ∀ {α : Type} (a : α), P α (Pure.pure a) (Pure.pure a)
  bind : ∀ {α β : Type} {x : m' α} {y : m α} {f : α → m' β} {g : α → m β},
    P α x y → (∀ a, P β (f a) (g a)) → P β (x >>= f) (y >>= g)

/-- The operations that combinations of verdicts are built from respect a relation. -/
structure Congruence (P : ∀ α : Type, m' α → m α → Prop) : Prop extends Sequencing P where
  bounds : P (ErrorBounds R) Budgeted.bounds Budgeted.bounds
  within : ∀ {α : Type} {x : m' α} {y : m α} (b : ErrorBounds R),
    P α x y → P α (Budgeted.within b x) (Budgeted.within b y)

end Verdict

section Operands

variable {m' m : Type → Type} {P : ∀ α : Type, m' α → m α → Prop}

/-- Two operands of the same kind whose verdicts are related. -/
def Operand.Related (P : ∀ α : Type, m' α → m α → Prop) (o' : Operand m') (o : Operand m) : Prop :=
  o'.probabilistic = o.probabilistic ∧ P Bool o'.verdict o.verdict

variable {head' : Option (m' Bool)} {head : Option (m Bool)} {os' : List (Operand m')}
  {os : List (Operand m)} (hos : List.Forall₂ (Operand.Related P) os' os)

include hos

namespace Operand.Related

/-- The operands of one kind are related one by one. -/
theorem filter (kind : Bool → Bool) :
    List.Forall₂ (Operand.Related P) (os'.filter fun o => kind o.probabilistic)
      (os.filter fun o => kind o.probabilistic) := by
  induction hos with
  | nil => exact .nil
  | @cons o' o os' os ho _ ih =>
    simp only [List.filter_cons, ho.1]
    split_ifs
    · exact .cons ho ih
    · exact ih

theorem isEmpty_eq : os'.isEmpty = os.isEmpty := by cases hos <;> rfl

theorem countP_eq : os'.countP (·.probabilistic) = os.countP (·.probabilistic) := by
  rw [List.countP_eq_length_filter, List.countP_eq_length_filter]
  exact (filter hos id).length_eq

theorem verdicts : List.Forall₂ (P Bool) (os'.map (·.verdict)) (os.map (·.verdict)) := by
  induction hos with
  | nil => exact .nil
  | cons ho _ ih => exact .cons ho.2 ih

/-- An operand that is an expression comes before the others. -/
theorem verdicts_head (hhead : Option.Rel (P Bool) head' head) :
    List.Forall₂ (P Bool) (head'.toList ++ os'.map (·.verdict))
      (head.toList ++ os.map (·.verdict)) := by
  cases hhead with
  | none => exact verdicts hos
  | some hx => exact .cons hx (verdicts hos)

end Operand.Related

end Operands

namespace Verdict.Sequencing

variable {m' m : Type → Type} [Monad m'] [Monad m] {P : ∀ α : Type, m' α → m α → Prop}
  (h : Verdict.Sequencing P)

include h

theorem anyIs (b : Bool) {vs' : List (m' Bool)} {vs : List (m Bool)}
    (hvs : List.Forall₂ (P Bool) vs' vs) :
    P Bool (Verdict.anyIs b vs') (Verdict.anyIs b vs) := by
  induction hvs with
  | nil => exact h.pure false
  | cons hv _ ih => exact h.bind hv fun c => ite_related (h.pure true) ih

theorem chain (b : Bool) {vs' : List (m' Bool)} {vs : List (m Bool)}
    (hvs : List.Forall₂ (P Bool) vs' vs) :
    P Bool (Verdict.chain b vs') (Verdict.chain b vs) := by
  induction hvs generalizing b with
  | nil => exact h.pure b
  | cons hv _ ih => exact h.bind hv fun c => ih (b == c)

theorem chainAll {vs' : List (m' Bool)} {vs : List (m Bool)}
    (hvs : List.Forall₂ (P Bool) vs' vs) :
    P Bool (Verdict.chainAll vs') (Verdict.chainAll vs) := by
  cases hvs with
  | nil => exact h.pure true
  | cons hv hvs => exact h.bind hv fun b => h.chain b hvs

end Verdict.Sequencing

namespace Verdict.Congruence

variable {m' m : Type → Type} [Monad m'] [Monad m] [Budgeted R m'] [Budgeted R m]
  {P : ∀ α : Type, m' α → m α → Prop} (h : Verdict.Congruence P)

include h

theorem negation {x : m' Bool} {y : m Bool} (hxy : P Bool x y) :
    P Bool (Verdict.negation x) (Verdict.negation y) :=
  h.bind h.bounds fun b => h.bind (h.within b.swap hxy) fun _ => h.pure _

variable [Scalar R] {head' : Option (m' Bool)} {head : Option (m Bool)} {os' : List (Operand m')}
  {os : List (Operand m)} (hhead : Option.Rel (P Bool) head' head)
  (hos : List.Forall₂ (Operand.Related P) os' os)

include hhead hos

theorem junction (conjunctive : Bool) :
    P Bool (Verdict.junction conjunctive head' os') (Verdict.junction conjunctive head os) := by
  have htested : List.Forall₂ (Operand.Related P) (os'.filter (·.probabilistic))
      (os.filter (·.probabilistic)) := Operand.Related.filter hos id
  have hfree := Operand.Related.filter hos not
  unfold Verdict.junction
  rw [List.partition_eq_filter_filter, List.partition_eq_filter_filter]
  refine h.bind (h.anyIs _ (Operand.Related.verdicts_head hfree hhead)) fun c =>
    ite_related (h.pure _) ?_
  rw [Operand.Related.isEmpty_eq htested, htested.length_eq]
  refine ite_related (h.pure _) (h.bind h.bounds fun b => ?_)
  exact h.bind (h.within _ (h.anyIs _ (Operand.Related.verdicts htested))) fun _ => h.pure _

/-- **Combinations are related if their operands are.** -/
theorem combine (c : Connective) :
    P Bool (Verdict.combine c head' os') (Verdict.combine c head os) := by
  cases c with
  | conjunction => exact h.junction hhead hos true
  | disjunction => exact h.junction hhead hos false
  | equivalence =>
    refine h.bind h.bounds fun b => ?_
    rw [Operand.Related.countP_eq hos]
    exact h.within _ (h.chainAll (Operand.Related.verdicts_head hos hhead))

omit [Budgeted R m'] h hhead hos in
/-- **What holds of every operand holds of their combination**, if the operations of connectives respect
it. -/
theorem combine_of_forall {P : ∀ α : Type, m α → Prop}
    (h : Verdict.Congruence fun α (x _ : m α) => P α x) (hhead : ∀ v ∈ head, P Bool v)
    (hos : ∀ o ∈ os, P Bool o.verdict) (c : Connective) : P Bool (Verdict.combine c head os) := by
  have hrelated : Option.Rel (fun x _ => P Bool x) head head := by
    cases head with
    | none => exact .none
    | some v => exact .some (hhead v rfl)
  exact h.combine hrelated (List.forall₂_same.2 fun o ho => ⟨rfl, hos o ho⟩) c

end Verdict.Congruence

/-! ### Runs -/

/-- A relation between runs with the same values and sources. -/
abbrev RunRelation (R G' G : Type) :=
  ∀ S α : Type, Run R (Session R G' S) α → Run R (Session R G S) α → Prop

variable {G' G : Type}

/-- The operations that observations are drawn with respect a relation: they change nothing but the
source, and halt at most because their fuel is spent. -/
structure Run.BasicCongruence (P : RunRelation R G' G) : Prop where
  pure : ∀ {S α : Type} (a : α), P S α (Pure.pure a) (Pure.pure a)
  bind : ∀ {S α β : Type} {x : Run R (Session R G' S) α} {y : Run R (Session R G S) α}
    {f : α → Run R (Session R G' S) β} {g : α → Run R (Session R G S) β},
    P S α x y → (∀ a, P S β (f a) (g a)) → P S β (x >>= f) (y >>= g)
  outOfFuel : ∀ {S α : Type},
    P S α (MonadExcept.throw Halt.outOfFuel) (MonadExcept.throw Halt.outOfFuel)
  locally : ∀ {S α : Type} {x : Run R (Session R G' Unit) α} {y : Run R (Session R G Unit) α},
    P Unit α x y → P S α (Run.locally x) (Run.locally y)
  readSource : ∀ {S α : Type} {f : S → Run R (Session R G' S) α} {g : S → Run R (Session R G S) α},
    (∀ x, P S α (f x) (g x)) →
      P S α (do f (← MonadState.get).source) (do g (← MonadState.get).source)
  changeSource : ∀ {S : Type} (f : S → S),
    P S Unit (modify fun s => { s with source := f s.source })
      (modify fun s => { s with source := f s.source })

/-- What is entered into the statistics by paths and by the tests inside them. -/
structure Tally (R : Type) where
  pathLengths : List R
  cacheSizes : List R
  truncatedPaths : ℕ

/-- The statistics with further entries.  The sizes of samples are those of the tests outside. -/
def Stats.add [Scalar R] (s : Stats R) (t : Tally R) : Stats R :=
  { s with
    pathLength := t.pathLengths.foldl Sample.push s.pathLength
    cacheSize := t.cacheSizes.foldl Sample.push s.cacheSize
    truncatedPaths := s.truncatedPaths + t.truncatedPaths }

/-- All operations that runs are built from respect a relation; `model'` and `model` draw the
transitions on either side. -/
structure Run.Congruence [Scalar R] (P : RunRelation R G' G) (model' : Model R G')
    (model : Model R G) : Prop extends Run.BasicCongruence P where
  throw : ∀ {S α : Type} (h : Halt R), P S α (MonadExcept.throw h) (MonadExcept.throw h)
  params : ∀ {S : Type}, P S (Params R) Run.params Run.params
  within : ∀ {S α : Type} {x : Run R (Session R G' S) α} {y : Run R (Session R G S) α}
    (b : ErrorBounds R), P S α x y → P S α (Run.withinBounds b x) (Run.withinBounds b y)
  nested : ∀ {S α : Type} {x : Run R (Session R G' S) α} {y : Run R (Session R G S) α},
    P S α x y → P S α (Run.nested x) (Run.nested y)
  report : ∀ {S : Type} (e : Event R), P S Unit (Run.report e) (Run.report e)
  count : ∀ {S : Type} (t : Tally R), P S Unit (Run.modifyStats (·.add t)) (Run.modifyStats (·.add t))
  transition : ∀ {S : Type} (s : State R),
    P S (Transition R) (Run.transition model' s) (Run.transition model s)
  outOfFuel := throw Halt.outOfFuel

/-- The operations that a state of a path is recorded and left with respect a relation `P`, if what is
checked within bounds of its own respects `Q`. -/
structure Run.StepCongruence (P Q : RunRelation R G' G) (model' : Model R G') (model : Model R G) :
    Prop where
  pure : ∀ {S α : Type} (a : α), P S α (Pure.pure a) (Pure.pure a)
  bind : ∀ {S α β : Type} {x : Run R (Session R G' S) α} {y : Run R (Session R G S) α}
    {f : α → Run R (Session R G' S) β} {g : α → Run R (Session R G S) β},
    P S α x y → (∀ a, P S β (f a) (g a)) → P S β (x >>= f) (y >>= g)
  within : ∀ {S α : Type} {x : Run R (Session R G' S) α} {y : Run R (Session R G S) α}
    (b : ErrorBounds R), Q S α x y → P S α (Run.withinBounds b x) (Run.withinBounds b y)
  report : ∀ {S : Type} (id : PropertyId) (length : ℕ) (bound : R),
    P S Unit (Run.report (.resolvingPrefix id length bound))
      (Run.report (.resolvingPrefix id length bound))
  transition : ∀ {S : Type} (s : State R),
    P S (Transition R) (Run.transition model' s) (Run.transition model s)
  replays : Verdict.Sequencing (Q Unit)

/-- The operations that paths are built from respect a relation `P`, if what is checked within bounds of
its own respects `Q`.  Of the parameters a path reads the largest length. -/
structure Run.PathCongruence [Scalar R] (P Q : RunRelation R G' G) (model' : Model R G')
    (model : Model R G) : Prop where
  pure : ∀ {S α : Type} (a : α), P S α (Pure.pure a) (Pure.pure a)
  bind : ∀ {S α β : Type} {x : Run R (Session R G' S) α} {y : Run R (Session R G S) α}
    {f : α → Run R (Session R G' S) β} {g : α → Run R (Session R G S) β},
    P S α x y → (∀ a, P S β (f a) (g a)) → P S β (x >>= f) (y >>= g)
  outOfFuel : ∀ {S α : Type},
    P S α (MonadExcept.throw Halt.outOfFuel) (MonadExcept.throw Halt.outOfFuel)
  params : ∀ {S α : Type} {f : Params R → Run R (Session R G' S) α}
    {g : Params R → Run R (Session R G S) α},
    (∀ p q, p.maxPathLength = q.maxPathLength → P S α (f p) (g q)) →
      P S α (Run.params >>= f) (Run.params >>= g)
  within : ∀ {S α : Type} {x : Run R (Session R G' S) α} {y : Run R (Session R G S) α}
    (b : ErrorBounds R), Q S α x y → P S α (Run.withinBounds b x) (Run.withinBounds b y)
  report : ∀ {S : Type} (e : Event R), P S Unit (Run.report e) (Run.report e)
  count : ∀ {S : Type} (t : Tally R), P S Unit (Run.modifyStats (·.add t)) (Run.modifyStats (·.add t))
  transition : ∀ {S : Type} (s : State R),
    P S (Transition R) (Run.transition model' s) (Run.transition model s)
  replays : Run.BasicCongruence Q

/-- Two path properties of the same number and window whose sides are related. -/
structure UntilCheck.Related (P : RunRelation R G' G) (u' : UntilCheck R G') (u : UntilCheck R G) :
    Prop where
  id : u'.id = u.id
  lower : u'.lower = u.lower
  upper : u'.upper = u.upper
  probabilistic : ∀ side, (u'.side side).probabilistic = (u.side side).probabilistic
  check : ∀ side s, P Unit Bool ((u'.side side).check s) ((u.side side).check s)

/-- Related path properties reserve the same error. -/
theorem UntilCheck.Related.nestedError_eq [Scalar R] {P : RunRelation R G' G} {u' : UntilCheck R G'}
    {u : UntilCheck R G} (h : u'.Related P u) (p : Params R) : u'.nestedError p = u.nestedError p := by
  have hpre : u'.pre.probabilistic = u.pre.probabilistic := h.probabilistic .pre
  have hpost : u'.post.probabilistic = u.post.probabilistic := h.probabilistic .post
  have hprobabilistic : u'.isProbabilistic = u.isProbabilistic := by
    rw [UntilCheck.isProbabilistic, UntilCheck.isProbabilistic, hpre, hpost]
  rw [UntilCheck.nestedError, UntilCheck.nestedError, hprobabilistic]

/-- With the same number, window and thresholds, path properties are related if both sides are. -/
theorem UntilCheck.Related.of_sides {P : RunRelation R G' G} {id : PropertyId} {lower upper : R}
    {kind kind' : Bool} {pre' post' : State R → Run R (Session R G' Unit) Bool}
    {pre post : State R → Run R (Session R G Unit) Bool} (hpre : ∀ s, P Unit Bool (pre' s) (pre s))
    (hpost : ∀ s, P Unit Bool (post' s) (post s)) :
    UntilCheck.Related P ⟨id, lower, upper, ⟨kind, pre'⟩, ⟨kind', post'⟩⟩
      ⟨id, lower, upper, ⟨kind, pre⟩, ⟨kind', post⟩⟩ where
  id := rfl
  lower := rfl
  upper := rfl
  probabilistic side := by cases side <;> rfl
  check side s := by
    cases side with
    | pre => exact hpre s
    | post => exact hpost s

namespace Run.BasicCongruence

variable {P : RunRelation R G' G} (h : Run.BasicCongruence P) {S : Type}

include h

theorem sequencing (S : Type) : Verdict.Sequencing (P S) := ⟨h.pure, h.bind⟩

/-! ### Observations -/

section Observations

theorem beginRun (src : SampleSource R S) (id : PropertyId) (s : State R) :
    P S Unit (Run.beginRun src id s) (Run.beginRun src id s) := h.changeSource _

theorem endRun (src : SampleSource R S) (id : PropertyId) :
    P S Unit (Run.endRun src id) (Run.endRun src id) := h.changeSource _

variable {path' : Run R (Session R G' Unit) Bool} {path : Run R (Session R G Unit) Bool}
  (hpath : P Unit Bool path' path)

include hpath

theorem follow (d : Draw S) : P S Bool (Run.follow path' d) (Run.follow path d) := by
  induction d with
  | answer b source => exact h.bind (h.changeSource fun _ => source) fun _ => h.pure b
  | simulate next ih => exact h.bind (h.locally hpath) fun b => ih b
  | stalled => exact h.outOfFuel

/-- Observations are related if the paths that are simulated for them are. -/
theorem draw (src : SampleSource R S) : P S Bool (Run.draw src path') (Run.draw src path) :=
  h.readSource fun x => h.follow hpath (src.next x)

variable [Scalar R]

theorem drawSample (src : SampleSource R S) (n : ℕ) (s : Sample R) :
    P S (Sample R) (Session.drawSample src path' n s) (Session.drawSample src path n s) := by
  induction n generalizing s with
  | zero => exact h.pure s
  | succ n ih => exact h.bind (h.draw hpath src) fun b => ih (s.pushBool b)

variable [Distributions R]

theorem observeUntilDone (src : SampleSource R S) (fuel : ℕ) (t : ThresholdTest R) :
    P S (ThresholdTest R) (SimCheck.observeUntilDone src path' fuel t)
      (SimCheck.observeUntilDone src path fuel t) := by
  induction fuel generalizing t with
  | zero => exact ite_related (h.pure t) h.outOfFuel
  | succ fuel ih => exact ite_related (h.pure t) (h.bind (h.draw hpath src) fun b => ih (t.push b))

theorem completeTest (src : SampleSource R S) (id : PropertyId) (s : State R) (fuel : ℕ)
    (t : ThresholdTest R) :
    P S (ThresholdTest R) (SimCheck.completeTest src id s path' fuel t)
      (SimCheck.completeTest src id s path fuel t) := by
  refine ite_related (h.pure t) (h.bind (h.beginRun src id s) fun _ => ?_)
  refine h.bind (h.observeUntilDone hpath src fuel t) fun t => ?_
  exact h.bind (h.endRun src id) fun _ => h.pure t

theorem estimateUntilDone (src : SampleSource R S) (fuel : ℕ) (e : IntervalEstimate R) :
    P S (IntervalEstimate R) (Session.estimateUntilDone src path' fuel e)
      (Session.estimateUntilDone src path fuel e) := by
  induction fuel generalizing e with
  | zero => exact ite_related (h.pure e) h.outOfFuel
  | succ fuel ih =>
    exact ite_related (h.pure e) (h.bind (h.draw hpath src) fun b => ih (e.push (Scalar.ofBool b)))

end Observations

end Run.BasicCongruence

/-! ### Pending checks -/

section Trace

variable {P : ∀ α : Type, Run R (Session R G' Unit) α → Run R (Session R G Unit) α → Prop}
  (h : Verdict.Sequencing P) {check' : Side → State R → Run R (Session R G' Unit) Bool}
  {check : Side → State R → Run R (Session R G Unit) Bool}
  (hcheck : ∀ side s, P Bool (check' side s) (check side s))

include h hcheck

theorem Verdict.Sequencing.settle (step : Step R) (seen : List (Valuation × Bool)) :
    P _ (Trace.settle check' step seen) (Trace.settle check step seen) := by
  obtain ⟨side, finding⟩ := step
  cases finding with
  | known holds => cases side <;> exact h.pure _
  | deferred state =>
    cases side with
    | post => exact h.bind (hcheck .post state) fun _ => h.pure _
    | pre =>
      -- A left side that has been settled before is not checked again, on either side.
      unfold Trace.settle
      dsimp only
      split
      · exact h.pure _
      · exact h.bind (hcheck .pre state) fun _ => h.pure _

theorem Verdict.Sequencing.replay (steps : List (Step R)) (seen : List (Valuation × Bool)) :
    P _ (Trace.replay check' steps seen) (Trace.replay check steps seen) := by
  induction steps generalizing seen with
  | nil => exact h.pure _
  | cons step steps ih =>
    refine h.bind (h.settle hcheck step seen) fun r => ?_
    cases houtcome : step.side.outcome r.1 with
    | «open» => simpa only [houtcome] using ih r.2
    | satisfied => simpa only [houtcome] using h.pure _
    | violated => simpa only [houtcome] using h.pure _

end Trace

/-! ### Operations of runs -/

namespace Run.Congruence

variable [Scalar R] {P : RunRelation R G' G} {model' : Model R G'} {model : Model R G}
  (h : Run.Congruence P model' model) {S α β : Type}

include h

theorem ofExcept (e : Except (Fault R) α) : P S α (Run.ofExcept e) (Run.ofExcept e) := by
  cases e with
  | error f => exact h.throw (.fault f)
  | ok a => exact h.pure a

/-- So do the operations of connectives. -/
theorem verdict (S : Type) : Verdict.Congruence (P S) where
  pure := h.pure
  bind := h.bind
  bounds := h.bind h.params fun _ => h.pure _
  within := h.within

theorem runEstimate [Distributions R] {path' : Run R (Session R G' Unit) Bool}
    {path : Run R (Session R G Unit) Bool} (hpath : P Unit Bool path' path)
    {sim' : Simulator R G'} {sim : Simulator R G} (hfuel : sim'.fuel = sim.fuel)
    (src : SampleSource R S) (p : Params R) :
    P S (Estimate R) (Session.runEstimate sim' src p path')
      (Session.runEstimate sim src p path) := by
  unfold Session.runEstimate
  rw [hfuel]
  cases p.estimationAlgorithm with
  | chowRobbins =>
    refine h.bind (h.ofExcept _) fun e => ?_
    refine h.bind (h.estimateUntilDone hpath src sim.fuel e) fun e => ?_
    exact h.bind (h.report _) fun _ => h.pure _
  | chernoff =>
    exact h.bind (h.ofExcept _) fun size =>
      h.bind (h.drawSample hpath src size ∅) fun _ => h.pure _

/-- A path respects a relation that checks respect as well. -/
theorem toPathCongruence : Run.PathCongruence P P model' model where
  pure := h.pure
  bind := h.bind
  outOfFuel := h.outOfFuel
  params hk := h.bind h.params fun p => hk p p rfl
  within := h.within
  report := h.report
  count := h.count
  transition := h.transition
  replays := h.toBasicCongruence

end Run.Congruence

/-! ### Paths -/

namespace Run.StepCongruence

variable [Scalar R] {P Q : RunRelation R G' G} {model' : Model R G'} {model : Model R G}
  (h : Run.StepCongruence P Q model' model) {u' : UntilCheck R G'} {u : UntilCheck R G}
  (hu : u'.Related Q u)

include h hu

theorem resolve (t : Trace R) (bound : R) :
    P Unit _ (t.resolve (fun side => (u'.side side).check) bound)
      (t.resolve (fun side => (u.side side).check) bound) :=
  h.bind (h.within _ (h.replays.replay hu.check _ _)) fun _ => h.pure _

theorem finish (t : Trace R) (length : ℕ) (cutOff : Bool) :
    P Unit _ (Walk.finish u' t length cutOff) (Walk.finish u t length cutOff) :=
  h.bind (h.resolve hu t t.budget) fun _ => h.pure _

theorem resolvePrefix (t : Trace R) (length : ℕ) :
    P Unit _ (Walk.resolvePrefix u' t length) (Walk.resolvePrefix u t length) := by
  unfold Walk.resolvePrefix
  rw [hu.id]
  exact h.bind (h.report _ _ _) fun _ => h.resolve hu _ _

theorem leave (origin : R) (w : Walk R) (t : Transition R) :
    P Unit _ (Walk.leave u' origin w t) (Walk.leave u origin w t) := by
  unfold Walk.leave
  rw [hu.upper]
  exact ite_related (h.finish hu _ _ _) (ite_related (h.finish hu _ _ _) (h.pure _))

/-! A side without thresholds is checked as soon as a state is entered, within the bounds in force. -/

section Visit

variable (hfree : ∀ side, (u.side side).probabilistic = false →
  ∀ s, P Unit Bool ((u'.side side).check s) ((u.side side).check s))

include hfree

omit [Scalar R] in
theorem record (side : Side) (s : State R) (t : Trace R) :
    P Unit _ (u'.record side s t) (u.record side s t) := by
  unfold UntilCheck.record UntilCheck.observe
  rw [hu.probabilistic]
  refine h.bind ?_ fun _ => h.pure _
  split_ifs with hside
  · exact h.pure _
  · exact h.bind (hfree side (eq_false_of_ne_true hside) s) fun _ => h.pure _

theorem visit (elapsed : R) (s : State R) (t : Trace R) :
    P Unit _ (Walk.visit model' u' elapsed s t) (Walk.visit model u elapsed s t) := by
  unfold Walk.visit
  rw [hu.lower]
  refine ite_related ?_ ?_
  · refine h.bind (h.record hu hfree .post s t) fun r => ite_related (h.pure _) ?_
    exact h.bind (h.record hu hfree .pre s r.1) fun _ => h.pure _
  · refine h.bind (h.record hu hfree .pre s t) fun r => ite_related (h.pure _) ?_
    refine h.bind (h.transition s) fun _ => ite_related ?_ (h.pure _)
    exact h.bind (h.record hu hfree .post s r.1) fun _ => h.pure _

end Visit

/-! The largest length is read where a state is left. -/

variable (hparams : ∀ {α : Type} {f : Params R → Run R (Session R G' Unit) α}
  {g : Params R → Run R (Session R G Unit) α},
  (∀ p q, p.maxPathLength = q.maxPathLength → P Unit α (f p) (g q)) →
    P Unit α (Run.params >>= f) (Run.params >>= g))

include hparams

theorem goOn (origin : R) (w : Walk R) (drawn : Option (Transition R)) :
    P Unit _ (Walk.goOn model' u' origin w drawn) (Walk.goOn model u origin w drawn) := by
  refine hparams fun p q hpq => ?_
  rw [hpq]
  refine ite_related (h.finish hu _ _ _) ?_
  cases drawn with
  | some t => exact h.bind (h.pure t) fun t => h.leave hu origin w t
  | none => exact h.bind (h.transition _) fun t => h.leave hu origin w t

theorem advance (hfree : ∀ side, (u.side side).probabilistic = false →
      ∀ s, P Unit Bool ((u'.side side).check s) ((u.side side).check s)) (origin : R) (w : Walk R) :
    P Unit _ (Walk.advance model' u' origin w) (Walk.advance model u origin w) := by
  refine h.bind (h.visit hu hfree _ _ _) fun v => ite_related (h.finish hu _ _ _) ?_
  refine ite_related (h.bind (h.resolvePrefix hu _ _) fun r => ?_) (h.goOn hu hparams origin _ _)
  obtain ⟨outcome, t⟩ := r
  cases outcome with
  | «open» => exact h.goOn hu hparams origin _ _
  | satisfied => exact h.pure _
  | violated => exact h.pure _

end Run.StepCongruence

namespace Run.PathCongruence

variable [Scalar R] {P Q : RunRelation R G' G} {model' : Model R G'} {model : Model R G}
  (h : Run.PathCongruence P Q model' model) {u' : UntilCheck R G'} {u : UntilCheck R G}
  (hu : u'.Related Q u)

include h

theorem toStepCongruence : Run.StepCongruence P Q model' model where
  pure := h.pure
  bind := h.bind
  within := h.within
  report _ _ _ := h.report _
  transition := h.transition
  replays := h.replays.sequencing Unit

variable (hfree : ∀ side, (u.side side).probabilistic = false →
  ∀ s, P Unit Bool ((u'.side side).check s) ((u.side side).check s))

include hu hfree

/-- **Walks are related if their sides are.** -/
theorem walk (origin : R) (fuel : ℕ) (w : Walk R) :
    P Unit _ (Walk.run model' u' origin fuel w) (Walk.run model u origin fuel w) := by
  induction fuel generalizing w with
  | zero => exact h.outOfFuel
  | succ fuel ih =>
    refine h.bind (h.toStepCongruence.advance hu h.params hfree origin w) fun p => ?_
    cases p with
    | ended path => exact h.pure _
    | ongoing w => exact ih w

theorem simulate (fuel : ℕ) (s : State R) (budget : R) :
    P Unit _ (SimCheck.simulate ⟨model', fuel⟩ u' s budget)
      (SimCheck.simulate ⟨model, fuel⟩ u s budget) := by
  refine h.bind (h.walk hu hfree s.time fuel _) fun path => ?_
  refine h.bind (h.count ⟨[(path.length : R)], [], 0⟩) fun _ => ?_
  split_ifs
  · exact h.bind (h.count ⟨[], [], 1⟩) fun _ => h.pure _
  · exact h.pure _

end Run.PathCongruence

namespace Run.Congruence

variable [Scalar R] {P : RunRelation R G' G} {model' : Model R G'} {model : Model R G}
  (h : Run.Congruence P model' model) {u' : UntilCheck R G'} {u : UntilCheck R G}
  (hu : u'.Related P u)

include h hu

theorem walk (origin : R) (fuel : ℕ) (w : Walk R) :
    P Unit _ (Walk.run model' u' origin fuel w) (Walk.run model u origin fuel w) :=
  h.toPathCongruence.walk hu (fun side _ => hu.check side) origin fuel w

theorem simulate (fuel : ℕ) (s : State R) (budget : R) :
    P Unit _ (SimCheck.simulate ⟨model', fuel⟩ u' s budget)
      (SimCheck.simulate ⟨model, fuel⟩ u s budget) :=
  h.toPathCongruence.simulate hu (fun side _ => hu.check side) fuel s budget

end Run.Congruence

/-! ### Checks -/

section Checks

variable [Scalar R] [Distributions R] {P : RunRelation R G' G} {sim' : Simulator R G'}
  {sim : Simulator R G}

/-- Thresholds are related if the sides of their path properties are. -/
abbrev RelatesThresholds (P : RunRelation R G' G) (sim' : Simulator R G') (sim : Simulator R G) : Prop :=
  ∀ {S : Type} {u' : UntilCheck R G'} {u : UntilCheck R G}, u'.Related P u →
    ∀ (src : SampleSource R S) (op : ThresholdOp) (bound : R) (s : State R),
      P S Bool (checkThreshold sim' src u' op bound s) (checkThreshold sim src u op bound s)

mutual

/-- **Checks are related if their thresholds are.** -/
theorem Run.Congruence.check (h : Run.Congruence P sim'.model sim.model)
    (htest : RelatesThresholds P sim' sim) {S : Type} (src : SampleSource R S) :
    ∀ (p : Property R) (s : State R),
      P S Bool (SimCheck.check sim' src p s) (SimCheck.check sim src p s)
  | .expr e, s => h.ofExcept _
  | .not p, s => (h.verdict S).negation (h.check htest src p s)
  | .combine c head ps, s => by
    refine (h.verdict S).combine ?_ (h.operands htest src ps s) c
    cases head with
    | none => exact .none
    | some e => exact .some (h.ofExcept _)
  | .threshold op bound (.until id lower upper pre post), s =>
    htest (.of_sides (h.check htest (.simulating R) pre) (h.check htest (.simulating R) post)) src op
      bound s

/-- So are the operands of a connective. -/
theorem Run.Congruence.operands (h : Run.Congruence P sim'.model sim.model)
    (htest : RelatesThresholds P sim' sim) {S : Type} (src : SampleSource R S) :
    ∀ (ps : List (Property R)) (s : State R),
      List.Forall₂ (Operand.Related (P S)) (SimCheck.operands sim' src ps s)
        (SimCheck.operands sim src ps s)
  | [], _ => .nil
  | p :: ps, s => .cons ⟨rfl, h.check htest src p s⟩ (h.operands htest src ps s)

end

/-- So are the sides of a path property. -/
theorem Run.Congruence.checks (h : Run.Congruence P sim'.model sim.model)
    (htest : RelatesThresholds P sim' sim) (path : PathProperty R) :
    (path.checks sim').Related P (path.checks sim) :=
  .of_sides (h.check htest (.simulating R) path.pre) (h.check htest (.simulating R) path.post)

end Checks

end SimCheck
