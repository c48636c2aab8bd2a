import Mathlib.Data.EReal.Basic
import SimCheck.Proofs.Precondition.Check
import SimCheck.Proofs.Precondition.Params
import SimCheck.Proofs.Test.Looser

/-!
# No call breaks a precondition

Valid parameters are never divided into such as no test can be constructed with: whatever is called on a
verifier with properties that have been constructed, each test, each estimator and each sample size is
asked for with arguments that are admitted.

* `Property.Built`, `PathProperty.Built`: trees from the constructors that check their numbers;
* `Params.Testable`, `Params.Testable.regime`: what the bounds in force are at any depth;
* `Constructors.AgreesWhereAdmitted`: constructors that may do anything where arguments are not admitted;
* `Call.preconditions_met`: calls on a verifier with valid parameters.
-/

namespace SimCheck

open Run (Safe)

/-! ### Properties that have been constructed -/

section

variable {R : Type} [Scalar R]

mutual

/-- Trees whose thresholds and windows have been checked when they were constructed. -/
inductive Property.Built : Property R → Prop
  | expr (e : Expression R) : Property.Built (.expr e)
  | not {p : Property R} (hp : Property.Built p) : Property.Built (.not p)
  | combine (c : Connective) (head : Option (Expression R)) {ps : List (Property R)}
      (hps : ∀ p ∈ ps, Property.Built p) : Property.Built (.combine c head ps)
  | threshold {op : ThresholdOp} {bound : R} {path : PathProperty R} {p : Property R}
      (hpath : PathProperty.Built path) (hp : Property.threshold? op bound path = .ok p) :
      Property.Built p

/-- Path properties whose windows have been checked when they were constructed. -/
inductive PathProperty.Built : PathProperty R → Prop
  | until {id : PropertyId} {lower upper : R} {pre post : Property R} {path : PathProperty R}
      (hpre : Property.Built pre) (hpost : Property.Built post)
      (hpath : PathProperty.until? id lower upper pre post = .ok path) : PathProperty.Built path
  | unbounded (id : PropertyId) {pre post : Property R} (hpre : Property.Built pre)
      (hpost : Property.Built post) : PathProperty.Built (.unbounded id pre post)

end

theorem Property.threshold?_eq_ok {op : ThresholdOp} {bound : R} {path : PathProperty R}
    {p : Property R} :
    Property.threshold? op bound path = .ok p ↔
      (0 ≤ bound ∧ bound ≤ 1) ∧ .threshold op bound path = p := by
  unfold Property.threshold?
  split_ifs with h <;> simp [h]

theorem PathProperty.until?_eq_ok {id : PropertyId} {lower upper : R} {pre post : Property R}
    {path : PathProperty R} :
    PathProperty.until? id lower upper pre post = .ok path ↔
      0 ≤ lower ∧ lower ≤ upper ∧ .until id lower upper pre post = path := by
  unfold PathProperty.until?
  split_ifs <;> simp [*]

omit [Scalar R] in
theorem Property.mem_thresholdBoundsOf {ps : List (Property R)} {b : R} :
    b ∈ thresholdBoundsOf ps ↔ ∃ p ∈ ps, b ∈ p.thresholdBounds := by
  induction ps with
  | nil => simp [thresholdBoundsOf]
  | cons p ps ih => simp [thresholdBoundsOf, ih]

mutual

/-- The thresholds of a tree are probabilities. -/
theorem Property.Built.bounds_mem : ∀ {p : Property R}, p.Built →
    ∀ b ∈ p.thresholdBounds, 0 ≤ b ∧ b ≤ 1
  | _, .expr _, _, hb => (List.not_mem_nil hb).elim
  | _, .not hp, b, hb => by
    rw [Property.thresholdBounds] at hb
    exact hp.bounds_mem b hb
  | _, .combine _ _ hps, b, hb => by
    rw [Property.thresholdBounds, Property.mem_thresholdBoundsOf] at hb
    obtain ⟨p, hp, hb⟩ := hb
    exact (hps p hp).bounds_mem b hb
  | _, @Property.Built.threshold _ _ _ _ (.until ..) _ hpath hp, b, hb => by
    obtain ⟨hbound, rfl⟩ := Property.threshold?_eq_ok.1 hp
    rw [Property.thresholdBounds] at hb
    rcases List.mem_cons.1 hb with rfl | hb
    · exact hbound
    · obtain ⟨hpre, hpost⟩ := hpath.bounds_mem
      rcases List.mem_append.1 hb with hb | hb
      exacts [hpre b hb, hpost b hb]

/-- The thresholds inside a path property are probabilities. -/
theorem PathProperty.Built.bounds_mem : ∀ {path : PathProperty R}, path.Built →
    (∀ b ∈ path.pre.thresholdBounds, 0 ≤ b ∧ b ≤ 1) ∧
      ∀ b ∈ path.post.thresholdBounds, 0 ≤ b ∧ b ≤ 1
  | _, .until hpre hpost hpath => by
    obtain ⟨-, -, rfl⟩ := PathProperty.until?_eq_ok.1 hpath
    exact ⟨hpre.bounds_mem, hpost.bounds_mem⟩
  | _, .unbounded _ hpre hpost => ⟨hpre.bounds_mem, hpost.bounds_mem⟩

end

end

/-! ### Parameters at any depth -/

/-- The parameters of a check at any depth: the algorithm `a`, the half-width `d` and the nested error `e`
are those of the verifier, and the error bounds of any but the fixed test are in the open unit
interval. -/
structure Params.Testable (a : ThresholdAlgorithm) (d e : ℝ) (p : Params EReal) : Prop where
  algorithm : p.thresholdAlgorithm = a
  delta : p.delta = d
  nestedErrorBound : p.nestedErrorBound = e
  size : 0 < p.fixedSampleSize
  bounds : a ≠ .fixed → OpenUnit p.alpha ∧ OpenUnit p.beta

namespace Params.Testable

variable {a : ThresholdAlgorithm} {d e : ℝ} {p : Params EReal}

theorem withBounds (hp : p.Testable a d e) {b : ErrorBounds EReal}
    (hb : a ≠ .fixed → OpenUnit b.alpha ∧ OpenUnit b.beta) : (p.withBounds b).Testable a d e where
  algorithm := hp.algorithm
  delta := hp.delta
  nestedErrorBound := hp.nestedErrorBound
  size := hp.size
  bounds := hb

theorem divides : Divides (Testable a d e) where
  swap _ hp := hp.withBounds fun ha => (hp.bounds ha).symm
  shareAlpha _ _ hp hk := hp.withBounds fun ha => ⟨(hp.bounds ha).1.div hk, (hp.bounds ha).2⟩
  shareBeta _ _ hp hk := hp.withBounds fun ha => ⟨(hp.bounds ha).1, (hp.bounds ha).2.div hk⟩
  shareLeast _ _ hp hk := hp.withBounds fun ha => by
    have hleast := ((hp.bounds ha).1.least (hp.bounds ha).2).div hk
    exact ⟨hleast, hleast⟩

theorem spends : Spends (Testable a d e) fun x => a ≠ .fixed → OpenUnit x where
  halves _ hx := ⟨fun ha => (hx ha).halves.1, fun ha => (hx ha).halves.2⟩
  shares _ _ _ hp hx hn := hp.withBounds fun ha => ⟨(hx ha).div hn, (hx ha).div hn⟩

variable (hleeway : Leeway d e) (hpos : a ≠ .fixed → 0 < d)

include hleeway hpos

/-- The test of a threshold is constructed with arguments that are admitted. -/
theorem admits (hp : p.Testable a d e) {bound error : EReal} (hbound : 0 ≤ bound)
    (hbound' : bound ≤ 1) (herror : error = 0 ∨ error = p.nestedErrorBound) :
    ThresholdTest.Admits p.thresholdAlgorithm (Region.around bound p.delta error) p := by
  lift bound to ℝ using ⟨(hbound'.trans_lt (EReal.coe_lt_top 1)).ne, (EReal.bot_lt_zero.trans_le hbound).ne'⟩
  obtain ⟨error, rfl, hreal⟩ : ∃ r : ℝ, error = (r : EReal) ∧ (r = 0 ∨ r = e) := by
    rcases herror with rfl | rfl
    exacts [⟨0, rfl, .inl rfl⟩, ⟨e, hp.nestedErrorBound, .inr rfl⟩]
  have hlow : 0 ≤ bound := EReal.coe_nonneg.1 hbound
  have hhigh : bound ≤ 1 := EReal.coe_le_coe_iff.1 hbound'
  rw [hp.algorithm, hp.delta]
  refine ⟨hleeway.around_le hlow hhigh hreal, ?_⟩
  cases a with
  | fixed => exact hp.size
  | chowRobbins =>
    obtain ⟨halpha, hbeta⟩ := hp.bounds (by decide)
    rw [hp.delta]
    refine ⟨EReal.coe_pos.2 (hpos (by decide)), ?_⟩
    rw [← Exact.least_eq_min]
    exact halpha.least hbeta
  | ssp | sprt =>
    exact ⟨Region.isProper_iff.1 (hleeway.isProper_around hlow hhigh hreal (hpos (by decide))),
      hp.bounds (by decide)⟩

end Params.Testable

/-- Constructors that do what those of the verifier do with arguments that these admit. -/
structure Constructors.AgreesWhereAdmitted [Distributions EReal] (k : Constructors EReal) : Prop where
  test : ∀ a r p, ThresholdTest.Admits a r p → k.test a r p = ThresholdTest.create a r p
  interval : ∀ delta alpha, 0 < delta → OpenUnit alpha →
    k.interval delta alpha = IntervalEstimate.create delta alpha
  size : ∀ delta alpha, 0 < delta → OpenUnit alpha → k.size delta alpha = chernoffSize delta alpha

section

variable [Distributions EReal] {G : Type} {k : Constructors EReal} (hk : k.AgreesWhereAdmitted)
  {H : Halt EReal → Prop}

include hk

/-- Parameters of checks at any depth admit whatever checks do with them. -/
theorem Params.Testable.regime {a : ThresholdAlgorithm} {d e : ℝ} (hleeway : Leeway d e)
    (hpos : a ≠ .fixed → 0 < d) (hplan : ∀ n, H (.fault (.noPlan n))) :
    Regime H (Params.Testable a d e) (fun x => a ≠ .fixed → OpenUnit x) k where
  toDivides := divides
  toSpends := spends
  nested p hp ha := by
    rw [hp.nestedErrorBound]
    exact OpenUnit.coe_iff.2 ⟨hleeway.error_pos (hpos ha), hleeway.error_lt_one⟩
  create bound p error hbound hbound' hp herror := by
    have hadmits := hp.admits hleeway hpos hbound hbound' herror
    refine ⟨hk.test _ _ _ hadmits, fun f hf => ?_⟩
    obtain ⟨n, rfl⟩ := ThresholdTest.admits_iff.1 hadmits f hf
    exact hplan n

/-! ### Queries -/

namespace Regime

variable {A : Params EReal → Prop} {B : EReal → Prop} {S : Type} (h : Regime H A B k)
  {sim : Simulator EReal G} (hmodel : ∀ s g f, sim.model s g = .error f → H (.fault f))
  (hfuel : H .outOfFuel) (src : SampleSource EReal S)

include h hmodel hfuel

omit h hmodel in
theorem runEstimate {p : Params EReal} (hdelta : 0 < p.delta) (halpha : OpenUnit p.alpha)
    {path' path : Run EReal (Session EReal G Unit) Bool}
    (hpath : Safe H A path' path fun _ => True) :
    Safe H A (k.runEstimate sim src p path') (Session.runEstimate sim src p path) fun _ => True := by
  have hcheck := checkInterval_eq_ok.2 ⟨hdelta, halpha⟩
  unfold Constructors.runEstimate Session.runEstimate
  rw [hk.interval _ _ hdelta halpha, hk.size _ _ hdelta halpha]
  cases p.estimationAlgorithm with
  | chowRobbins =>
    refine Safe.bind (.ofExcept fun f hf => ?_) fun e _ => ?_
    · rw [IntervalEstimate.create, hcheck] at hf
      cases hf
    refine Safe.bind ((Safe.basic hfuel).estimateUntilDone hpath src sim.fuel e) fun e _ => ?_
    exact Safe.bind (.report _) fun _ _ => .pure trivial
  | chernoff =>
    refine Safe.bind (.ofExcept fun f hf => ?_) fun n _ => ?_
    · rw [chernoffSize, hcheck] at hf
      cases hf
    exact Safe.bind ((Safe.basic hfuel).drawSample hpath src n ∅) fun _ _ => .pure trivial

omit hk in
theorem verify {p : Property EReal} (s : State EReal) (hbuilt : p.Built)
    (he : ∀ e ∈ p.expressions, ∀ t f, e.holds t = .error f → H (.fault f)) :
    Safe H A (k.verify sim src p s) (Session.verify sim src p s) fun _ => True :=
  Safe.bind (.modifyVerifier fun _ => rfl) fun _ _ =>
    h.check hmodel hfuel src p s he hbuilt.bounds_mem

variable {path : PathProperty EReal} (s : State EReal) (hbuilt : path.Built)
  (he : ∀ e ∈ path.pre.expressions ++ path.post.expressions, ∀ t f, e.holds t = .error f → H (.fault f))

include hbuilt he

omit hk in
theorem checks : Sides H A (k.checks sim path) (path.checks sim) := by
  obtain ⟨hpre, hpost⟩ := List.forall_mem_append.1 he
  obtain ⟨hpre', hpost'⟩ := hbuilt.bounds_mem
  exact .of_checks (h.check hmodel hfuel (.simulating EReal) path.pre · hpre hpre')
    (h.check hmodel hfuel (.simulating EReal) path.post · hpost hpost')

theorem estimate {p : Params EReal} (hp : A p) (halpha : OpenUnit p.alpha) :
    Safe H (· = p) (k.estimate sim src path s) (Session.estimate sim src path s) fun _ => True := by
  have hsides := h.checks hmodel hfuel hbuilt he
  refine Safe.params_bind fun v hv => .ite (fun _ => .pure trivial) fun hdelta => ?_
  subst hv
  have hadmitted (q : Params EReal) (hq : q = v.params) : A q := hq ▸ hp
  have hpath := (h.simulate hmodel hfuel hsides s v hp).weaken hadmitted
  dsimp only
  rw [hsides.related.nestedError_eq]
  refine Safe.bind (.modifyVerifier fun _ => rfl) fun _ _ => ?_
  refine Safe.bind (.update fun _ => rfl) fun _ _ => ?_
  refine Safe.bind (runEstimate hk hfuel src (not_le.1 hdelta) halpha hpath) fun e _ => ?_
  refine Safe.bind (.update fun _ => rfl) fun _ _ => ?_
  refine Safe.bind (.modifyVerifier fun _ => rfl) fun _ _ => ?_
  exact Safe.bind (.modifyStats _) fun _ _ => .pure trivial

omit hk in
theorem samplePath :
    Safe H A (k.samplePath sim path s : Run EReal (Session EReal G S) Bool)
      (Session.samplePath sim path s) fun _ => True := by
  have hsides := h.checks hmodel hfuel hbuilt he
  refine Safe.params_bind fun v hv => ?_
  rw [hsides.related.nestedError_eq]
  exact .nested (.locally ((h.simulate hmodel hfuel hsides s v hv).weaken fun q hq => hq ▸ hv))

end Regime

end

/-! ### Calls on a verifier -/

namespace Call

/-- The expressions that a call may look at. -/
def expressions {R : Type} : Call R → List (Expression R)
  | verify _ _ p _ => p.expressions
  | estimate _ _ path _ | samplePath path _ => path.pre.expressions ++ path.post.expressions
  | release _ | clearCache => []

/-- What is verified, estimated or sampled has been constructed. -/
def Built {R : Type} [Scalar R] : Call R → Prop
  | verify _ _ p _ => p.Built
  | estimate _ _ path _ | samplePath path _ => path.Built
  | release _ | clearCache => True

variable [Distributions EReal] {G : Type} {sim : Simulator EReal G} {k : Constructors EReal}
  {H : Halt EReal → Prop}

/-- The verifiers after two calls are the same, with the parameters `p`, or the calls halt alike. -/
def SafeAfter (H : Halt EReal → Prop) (p : Params EReal)
    (x' x : Except (Halt EReal) (Verifier EReal G)) : Prop :=
  x' = x ∧ match x with
    | .ok w => w.params = p
    | .error h => H h

omit [Distributions EReal] in
theorem SafeAfter.after {S α : Type} {x' x : Run EReal (Session EReal G S) α} {Q : α → Prop}
    {v : Verifier EReal G} (hx : Safe H (· = v.params) x' x Q) (source : S) :
    SafeAfter H v.params (v.after source x') (v.after source x) := by
  obtain ⟨heq, hrun⟩ := hx ⟨v, source⟩ rfl
  unfold SafeAfter Verifier.after
  rw [heq]
  refine ⟨rfl, ?_⟩
  cases h : x ⟨v, source⟩ with
  | error e =>
    rw [h] at hrun
    exact hrun
  | ok r =>
    rw [h] at hrun
    exact hrun.2

variable {A : Params EReal → Prop} {B : EReal → Prop} (hk : k.AgreesWhereAdmitted)
  (h : Regime H A B k) (hmodel : ∀ s g f, sim.model s g = .error f → H (.fault f))
  (hfuel : H .outOfFuel)

include hk h hmodel hfuel

/-- One call on a verifier. -/
theorem safeAfter_perform {v : Verifier EReal G} (hv : A v.params) (halpha : OpenUnit v.params.alpha)
    {c : Call EReal} (hc : c.Built)
    (he : ∀ e ∈ c.expressions, ∀ t f, e.holds t = .error f → H (.fault f)) :
    SafeAfter H v.params (k.perform sim v c) (c.perform sim v) := by
  have hA (p : Params EReal) (hp : p = v.params) : A p := hp ▸ hv
  cases c with
  | verify src source p s => exact .after ((h.verify hmodel hfuel src s hc he).weaken hA) source
  | estimate src source path s =>
    exact .after (h.estimate hk hmodel hfuel src s hc he hv halpha) source
  | samplePath path s => exact .after ((h.samplePath hmodel hfuel s hc he).weaken hA) ()
  | release id => exact ⟨rfl, rfl⟩
  | clearCache => exact ⟨rfl, rfl⟩

/-- Any number of calls on a verifier. -/
theorem safeAfter_foldlM {v : Verifier EReal G} (hv : A v.params) (halpha : OpenUnit v.params.alpha)
    {calls : List (Call EReal)} (hcalls : ∀ c ∈ calls, c.Built)
    (he : ∀ c ∈ calls, ∀ e ∈ c.expressions, ∀ t f, e.holds t = .error f → H (.fault f)) :
    SafeAfter H v.params (calls.foldlM (k.perform sim) v) (calls.foldlM (perform sim) v) := by
  induction calls generalizing v with
  | nil => exact ⟨rfl, rfl⟩
  | cons c calls ih =>
    obtain ⟨hc, hcalls⟩ := List.forall_mem_cons.1 hcalls
    obtain ⟨hfirst, he⟩ := List.forall_mem_cons.1 he
    obtain ⟨heq, hafter⟩ := safeAfter_perform hk h hmodel hfuel hv halpha hc hfirst
    rw [List.foldlM_cons, List.foldlM_cons, heq]
    cases hperform : c.perform sim v with
    | error e =>
      rw [hperform] at hafter
      exact ⟨rfl, hafter⟩
    | ok w =>
      rw [hperform] at hafter
      have hparams : w.params = v.params := hafter
      rw [← hparams] at hv halpha ⊢
      exact ih hv halpha hcalls he

omit hk h hmodel hfuel

/-- The reasons for which calls halt: the fuel is spent, a fault of the model or of an expression, or no
sampling plan has been found. -/
def Excuses (sim : Simulator EReal G) (calls : List (Call EReal)) : Halt EReal → Prop
  | .outOfFuel => True
  | .fault f => (∃ s g, sim.model s g = .error f) ∨
      (∃ c ∈ calls, ∃ e ∈ c.expressions, ∃ s, e.holds s = .error f) ∨ ∃ n, f = .noPlan n

/-- **Valid parameters break no precondition.**  Whatever is called on a verifier whose parameters are
valid, with properties that have been constructed, the calls do not depend on what the constructors of
tests and estimators and the size of samples are for arguments that are not admitted.  If a call halts
at a fault, it is one of the model or of an expression, or no sampling plan has been found. -/
theorem preconditions_met {v : Verifier EReal G} (hvalid : v.params.validate = .ok ())
    (hdelta : v.params.delta ≠ ⊤) {calls : List (Call EReal)} (hcalls : ∀ c ∈ calls, c.Built) :
    (∀ k : Constructors EReal, k.AgreesWhereAdmitted →
        calls.foldlM (k.perform sim) v = calls.foldlM (perform sim) v) ∧
      ∀ f, calls.foldlM (perform sim) v = .error (.fault f) →
        (∃ s g, sim.model s g = .error f) ∨
          (∃ c ∈ calls, ∃ e ∈ c.expressions, ∃ s, e.holds s = .error f) ∨ ∃ n, f = .noPlan n := by
  obtain ⟨halpha, hbeta, -, hempty, -, hsize, -⟩ := Params.validate_eq_ok.1 hvalid
  obtain ⟨d, e, hd, he, hleeway⟩ := Params.exists_leeway hvalid hdelta
  have hpos (hfixed : v.params.thresholdAlgorithm ≠ .fixed) : 0 < d :=
    hleeway.width_nonneg.lt_of_ne fun hzero => hfixed (hempty (hd.trans (hzero ▸ EReal.coe_zero)))
  have htestable : v.params.Testable v.params.thresholdAlgorithm d e :=
    ⟨rfl, hd, he, hsize, fun _ => ⟨halpha, hbeta⟩⟩
  have hsafe (k : Constructors EReal) (hk : k.AgreesWhereAdmitted) :
      SafeAfter (Excuses sim calls) v.params (calls.foldlM (k.perform sim) v)
        (calls.foldlM (perform sim) v) := by
    refine safeAfter_foldlM hk (Params.Testable.regime hk hleeway hpos fun n => ?_) ?_ trivial
      htestable halpha hcalls ?_
    · exact .inr (.inr ⟨n, rfl⟩)
    · exact fun s g f hf => .inl ⟨s, g, hf⟩
    · exact fun c hc e he t f hf => .inr (.inl ⟨c, hc, e, he, t, hf⟩)
  refine ⟨fun k hk => (hsafe k hk).1, fun f hf => ?_⟩
  obtain ⟨-, hexcused⟩ := hsafe .own ⟨fun _ _ _ _ => rfl, fun _ _ _ _ => rfl, fun _ _ _ _ => rfl⟩
  rw [hf] at hexcused
  exact hexcused

end Call

/-! ### Constructors that assert nothing -/

namespace Lenient

/-- Constructors that assert nothing: where arguments are not admitted there is a test that has rejected,
an estimate that is done and an empty sample. -/
noncomputable def constructors [Distributions EReal] : Constructors EReal := by
  classical exact
  { test a r p :=
      if ThresholdTest.Admits a r p then ThresholdTest.create a r p
      else .ok (.fixed ⟨r, p.fixedSampleSize, ∅, some false⟩)
    interval delta alpha :=
      if 0 < delta ∧ OpenUnit alpha then IntervalEstimate.create delta alpha
      else .ok ⟨delta, alpha, ∅, 0, 0, true⟩
    size delta alpha := if 0 < delta ∧ OpenUnit alpha then chernoffSize delta alpha else .ok 0 }

theorem agrees [Distributions EReal] : constructors.AgreesWhereAdmitted where
  test _ _ _ h := if_pos h
  interval _ _ hdelta halpha := if_pos ⟨hdelta, halpha⟩
  size _ _ hdelta halpha := if_pos ⟨hdelta, halpha⟩

/-- A model that stays where it is. -/
noncomputable def sim : Simulator EReal Unit := ⟨fun s g => .ok (.absorbing s.values, g), 1000⟩

noncomputable def verifier : Verifier EReal Unit := ⟨.default, (), ∅, ∅, 0, []⟩

/-- A path property with a threshold in it. -/
noncomputable def path : PathProperty EReal :=
  .unbounded ⟨1⟩ (.expr (.constant true))
    (.threshold .atLeast 0.5 (.unbounded ⟨2⟩ (.expr (.constant true)) (.expr (.constant false))))

noncomputable def calls : List (Call EReal) :=
  [.verify (.simulating EReal) () (.not (.threshold .above 0.5 path)) ⟨[0], 0⟩,
    .estimate (.simulating EReal) () path ⟨[0], 0⟩, .release ⟨1⟩, .samplePath path ⟨[0], 0⟩]

theorem threshold_built {op : ThresholdOp} {path : PathProperty EReal} (h : path.Built) :
    (Property.threshold op 0.5 path).Built := by
  have hhalf : (0 : EReal) ≤ 0.5 ∧ (0.5 : EReal) ≤ 1 := by
    rw [Exact.half_eq]
    exact ⟨EReal.coe_nonneg.2 (by norm_num), EReal.coe_le_coe_iff.2 (by norm_num)⟩
  exact .threshold h (Property.threshold?_eq_ok.2 ⟨hhalf, rfl⟩)

theorem path_built : path.Built :=
  .unbounded _ (.expr _) (threshold_built (.unbounded _ (.expr _) (.expr _)))

theorem calls_built : ∀ c ∈ calls, c.Built := by
  simp only [calls, List.forall_mem_cons, List.not_mem_nil, false_imp_iff, implies_true, and_true]
  exact ⟨.not (threshold_built path_built), path_built, trivial, path_built⟩

/-- The two constructors differ: the ends of this region are not in order. -/
theorem test_ne [Distributions EReal] :
    constructors.test .fixed ⟨0, 1⟩ (.default : Params EReal)
      ≠ ThresholdTest.create .fixed ⟨0, 1⟩ .default := by
  have hnot : ¬(1 : EReal) ≤ 0 := not_le.2 zero_lt_one
  have hcreate : ThresholdTest.create .fixed ⟨0, 1⟩ (.default : Params EReal)
      = .error (.invertedRegion 1 0) := by
    rw [ThresholdTest.create, FixedTest.create, if_neg hnot]
    rfl
  have hlenient : constructors.test .fixed ⟨0, 1⟩ (.default : Params EReal)
      = .ok (.fixed ⟨⟨0, 1⟩, 1000, ∅, some false⟩) := if_neg fun h => hnot h.1
  simp [hcreate, hlenient]

theorem expressions_ok : ∀ c ∈ calls, ∀ e ∈ c.expressions, ∀ s f, e.holds s ≠ .error f := by
  have hconstant : ∀ c ∈ calls, ∀ e ∈ c.expressions, ∃ b, e = .constant b := by
    simp [calls, Call.expressions, path, PathProperty.unbounded, PathProperty.pre, PathProperty.post,
      Property.expressions]
  intro c hc e he s f
  obtain ⟨b, rfl⟩ := hconstant c hc e he
  simp [Expression.constant]

/-- Calls with the default parameters are the same with constructors that assert nothing, which are not
those of the verifier, and halt at no fault. -/
theorem preconditions_met_lenient :
    let _ := Turnabout.distributions
    verifier.params.validate = .ok () ∧ verifier.params.delta ≠ ⊤ ∧ (∀ c ∈ calls, c.Built) ∧
      constructors.test .fixed ⟨0, 1⟩ .default
        ≠ ThresholdTest.create .fixed ⟨0, 1⟩ (.default : Params EReal) ∧
      calls.foldlM (constructors.perform sim) verifier = calls.foldlM (Call.perform sim) verifier ∧
      ∀ f, calls.foldlM (Call.perform sim) verifier = .error (.fault f) → ∃ n, f = .noPlan n := by
  intro _
  have hvalid : verifier.params.validate = .ok () := Params.validate_default
  have hdelta : verifier.params.delta ≠ ⊤ := EReal.coe_ne_top _
  obtain ⟨hsame, hfault⟩ :=
    @Call.preconditions_met Turnabout.distributions _ sim _ hvalid hdelta _ calls_built
  refine ⟨hvalid, hdelta, calls_built, test_ne, hsame _ agrees, fun f hf => ?_⟩
  rcases hfault f hf with ⟨s, g, hmodel⟩ | ⟨c, hc, e, he, s, hholds⟩ | hplan
  · cases hmodel
  · exact (expressions_ok c hc e he s f hholds).elim
  · exact hplan

end Lenient

end SimCheck
