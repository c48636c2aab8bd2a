import SimCheck.Proofs.Check
import SimCheck.Proofs.Congruence
import SimCheck.Proofs.Free
import SimCheck.Proofs.Memo.Calls

/-!
# Observations of the same path

A worker simulates a path at the outermost level and within the error bounds of its configuration, a
test at some level and within some share of them.  A path reads neither: what it checks, it checks within
bounds of its own, and its level shows only in what is reported.

* `Verifier.Agrees n E`: two verifiers with the same generator and cache, at level `n` or deeper, whose
  parameters `E` relates;
* `Alike n E x y`: from such verifiers `x` and `y` end alike, and enter the same into the statistics;
* `Alike.congruence`: what is built from runs that end alike ends alike, if the parameters are the same;
* `Alike.pathCongruence`: so do paths, whatever the error bounds are;
* `Session.samplePath_ends_as_simulate`: the two observations are the same.
-/

namespace SimCheck

variable {R G S α β : Type}

/-! ### Entries -/

/-- Entries one after the other. -/
def Tally.append (t t' : Tally R) : Tally R where
  pathLengths := t.pathLengths ++ t'.pathLengths
  cacheSizes := t.cacheSizes ++ t'.cacheSizes
  truncatedPaths := t.truncatedPaths + t'.truncatedPaths

theorem Stats.add_append [Scalar R] (s : Stats R) (t t' : Tally R) :
    s.add (t.append t') = (s.add t).add t' := by
  unfold Stats.add Tally.append
  rw [List.foldl_append, List.foldl_append, Nat.add_assoc]

/-! ### Error bounds -/

/-- All parameters but the error bounds are the same. -/
def Params.SameButBounds (p q : Params R) : Prop := ∀ b, p.withBounds b = q.withBounds b

namespace Params.SameButBounds

theorem withBounds (p : Params R) (b : ErrorBounds R) : p.SameButBounds (p.withBounds b) :=
  fun _ => rfl

variable {p q : Params R} (h : p.SameButBounds q)

include h

/-- The error bounds alone can differ. -/
theorem eq_withBounds : q = p.withBounds q.bounds := (h q.bounds).symm

theorem maxPathLength_eq : p.maxPathLength = q.maxPathLength := by
  have hlength := congrArg Params.maxPathLength (h p.bounds)
  exact hlength

/-- The error of nested checks does not depend on the error bounds. -/
theorem nestedError_eq [Scalar R] (u : UntilCheck R G) : u.nestedError p = u.nestedError q := by
  have hnested := congrArg u.nestedError (h p.bounds)
  exact hnested

end Params.SameButBounds

/-! ### Runs that end alike -/

/-- Two verifiers that may differ in their statistics and reports, in their levels, which are at least
`n`, and in their parameters as far as `E` says. -/
structure Verifier.Agrees (n : ℕ) (E : Params R → Params R → Prop) (v w : Verifier R G) : Prop where
  params : E v.params w.params
  generator : v.generator = w.generator
  cache : v.cache = w.cache
  level_left : n ≤ v.level
  level_right : n ≤ w.level

variable [Scalar R]

/-- How two runs have ended, from `v` and from `w`: they have halted for the same reason, or they have the
same value and have left the same source, generator and cache, and their verifiers are those from before
but for the same further entries into the statistics and for what has been reported. -/
inductive EndAlike (v w : Verifier R G) :
    Except (Halt R) (α × Session R G S) → Except (Halt R) (α × Session R G S) → Prop
  | halted (h : Halt R) : EndAlike v w (.error h) (.error h)
  | ended (a : α) (generator : G) (cache : SampleCache R) (t : Tally R) (events events' : List (Event R))
      (source : S) :
      EndAlike v w
        (.ok (a, ⟨{ v with generator, cache, stats := v.stats.add t, events }, source⟩))
        (.ok (a, ⟨{ w with generator, cache, stats := w.stats.add t, events := events' }, source⟩))

/-- From verifiers that agree and the same source the two runs end alike. -/
def Alike (n : ℕ) (E : Params R → Params R → Prop) (x y : Run R (Session R G S) α) : Prop :=
  ∀ (v w : Verifier R G) (source : S), v.Agrees n E w → EndAlike v w (x ⟨v, source⟩) (y ⟨w, source⟩)

namespace Alike

variable {n m : ℕ} {E : Params R → Params R → Prop} {x y : Run R (Session R G S) α}

theorem mono (h : Alike n E x y) (hnm : n ≤ m) : Alike m E x y := fun v w source hvw =>
  h v w source { hvw with
    level_left := Nat.le_trans hnm hvw.level_left
    level_right := Nat.le_trans hnm hvw.level_right }

theorem pure (a : α) : Alike n E (Pure.pure a : Run R (Session R G S) α) (Pure.pure a) := by
  rintro ⟨p, g, s, c, l, es⟩ ⟨q, _, s', _, l', es'⟩ source ⟨-, rfl, rfl, -, -⟩
  exact .ended a g c ⟨[], [], 0⟩ es es' source

theorem throw (h : Halt R) :
    Alike n E (MonadExcept.throw h : Run R (Session R G S) α) (MonadExcept.throw h) :=
  fun _ _ _ _ => .halted h

theorem ofExcept (e : Except (Fault R) α) :
    Alike n E (Run.ofExcept e : Run R (Session R G S) α) (Run.ofExcept e) := by
  cases e with
  | error f => exact throw (.fault f)
  | ok a => exact pure a

theorem bind {f g : α → Run R (Session R G S) β} (hx : Alike n E x y)
    (hf : ∀ a, Alike n E (f a) (g a)) : Alike n E (x >>= f) (y >>= g) := by
  intro v w source hvw
  show EndAlike v w (x ⟨v, source⟩ >>= fun r => f r.1 r.2) (y ⟨w, source⟩ >>= fun r => g r.1 r.2)
  have hfirst := hx v w source hvw
  generalize x ⟨v, source⟩ = r at hfirst ⊢
  generalize y ⟨w, source⟩ = r' at hfirst ⊢
  cases hfirst with
  | halted h => exact .halted h
  | ended a generator cache t events events' source =>
    have hrest := hf a { v with generator, cache, stats := v.stats.add t, events }
      { w with generator, cache, stats := w.stats.add t, events := events' } source
      ⟨hvw.params, rfl, rfl, hvw.level_left, hvw.level_right⟩
    show EndAlike v w (f a _) (g a _)
    generalize f a _ = r at hrest ⊢
    generalize g a _ = r' at hrest ⊢
    cases hrest with
    | halted h => exact .halted h
    | ended b generator cache t' events events' source =>
      rw [← Stats.add_append, ← Stats.add_append]
      exact .ended b generator cache (t.append t') events events' source

/-- Reading the verifiers. -/
theorem verifier_bind {f g : Verifier R G → Run R (Session R G S) β}
    (hf : ∀ v w, v.Agrees n E w → Alike n E (f v) (g w)) :
    Alike n E (Run.verifier >>= f) (Run.verifier >>= g) :=
  fun v w source hvw => hf v w hvw v w source hvw

theorem report (e e' : Event R) :
    Alike n E (Run.report e : Run R (Session R G S) Unit) (Run.report e') := by
  rintro ⟨p, g, s, c, l, es⟩ ⟨q, _, s', _, l', es'⟩ source ⟨-, rfl, rfl, -, -⟩
  exact .ended () g c ⟨[], [], 0⟩ (e :: es) (e' :: es') source

theorem count (t : Tally R) :
    Alike n E (Run.modifyStats (·.add t) : Run R (Session R G S) Unit) (Run.modifyStats (·.add t)) := by
  rintro ⟨p, g, s, c, l, es⟩ ⟨q, _, s', _, l', es'⟩ source ⟨-, rfl, rfl, -, -⟩
  exact .ended () g c t es es' source

theorem transition (model : Model R G) (state : State R) :
    Alike n E (Run.transition model state : Run R (Session R G S) _) (Run.transition model state) := by
  rintro ⟨p, g, s, c, l, es⟩ ⟨q, _, s', _, l', es'⟩ source ⟨-, rfl, rfl, -, -⟩
  rw [Run.transition_eq, Run.transition_eq]
  dsimp only
  cases model state g with
  | error f => exact .halted _
  | ok r => exact .ended r.1 r.2 c ⟨[], [], 0⟩ es es' source

/-- A run within bounds of its own does not depend on those in force. -/
theorem within (hE : ∀ p q, E p q → ∀ b, p.withBounds b = q.withBounds b) (b : ErrorBounds R)
    (hx : Alike n (· = ·) x y) : Alike n E (Run.withinBounds b x) (Run.withinBounds b y) := by
  intro v w source hvw
  have hinside := hx { v with params := v.params.withBounds b } { w with params := w.params.withBounds b }
    source { hvw with params := hE _ _ hvw.params b }
  rw [Run.withinBounds_apply, Run.withinBounds_apply]
  generalize x _ = r at hinside ⊢
  generalize y _ = r' at hinside ⊢
  cases hinside with
  | halted h => exact .halted h
  | ended a generator cache t events events' source =>
    exact .ended a generator cache t events events' source

/-- What ends alike one level deeper ends alike when it is run there. -/
theorem nested (hx : Alike (n + 1) E x y) : Alike n E (Run.nested x) (Run.nested y) := by
  intro v w source hvw
  have hinside := hx { v with level := v.level + 1 } { w with level := w.level + 1 } source
    { hvw with
      level_left := Nat.succ_le_succ hvw.level_left
      level_right := Nat.succ_le_succ hvw.level_right }
  rw [Run.nested_apply, Run.nested_apply]
  generalize x _ = r at hinside ⊢
  generalize y _ = r' at hinside ⊢
  cases hinside with
  | halted h => exact .halted h
  | ended a generator cache t events events' source =>
    exact .ended a generator cache t events events' source

theorem locally {x y : Run R (Session R G Unit) α} (hx : Alike n E x y) :
    Alike n E (Run.locally x : Run R (Session R G S) α) (Run.locally y) := by
  intro v w source hvw
  have hinside := hx v w () hvw
  rw [Run.locally_apply, Run.locally_apply]
  generalize x ⟨v, ()⟩ = r at hinside ⊢
  generalize y ⟨w, ()⟩ = r' at hinside ⊢
  cases hinside with
  | halted h => exact .halted h
  | ended a generator cache t events events' _ =>
    exact .ended a generator cache t events events' source

/-- **What is built from runs that end alike ends alike**, from verifiers with the same parameters. -/
theorem congruence (n : ℕ) (model : Model R G) :
    Run.Congruence (fun _ _ => Alike n (· = ·)) model model where
  pure := pure
  throw := throw
  bind := bind
  params := verifier_bind fun v w hvw => by rw [hvw.params]; exact pure _
  within := within fun _ _ hpq b => by rw [hpq]
  nested hx := nested (hx.mono n.le_succ)
  locally := locally
  report e := report e e
  count := count
  transition := transition model
  readSource hf := fun v w source hvw => hf source v w source hvw
  changeSource f := by
    rintro ⟨p, g, s, c, l, es⟩ ⟨q, _, s', _, l', es'⟩ source ⟨-, rfl, rfl, -, -⟩
    exact .ended () g c ⟨[], [], 0⟩ es es' (f source)

/-- A run without effect ends alike from whatever verifiers. -/
theorem of_settled {x : Run R (Session R G S) α} {a : α} (hx : Run.Settled x a) : Alike n E x x := by
  intro v w source hvw
  rcases hx with hx | ⟨h, hx⟩
  · rw [hx, hx]
    exact pure a v w source hvw
  · rw [hx, hx]
    exact .halted h

/-! ### Tests -/

section Tests

variable {u' u : UntilCheck R G}

/-- Below the first level a test enters the size of the cache and nothing else. -/
theorem closeTest (hid : u'.id = u.id) (s : State R) (t : ThresholdTest R) :
    Alike 2 (· = ·) (SimCheck.closeTest u' s t : Run R (Session R G S) Unit)
      (SimCheck.closeTest u s t) := by
  rintro ⟨p, g, stats, c, l, es⟩ ⟨_, _, stats', _, l', es'⟩ source ⟨rfl, rfl, rfl, hl, hl'⟩
  -- The size of a sample is entered at the first level only.
  have hdeep : l ≠ 1 := Nat.ne_of_gt hl
  have hdeep' : l' ≠ 1 := Nat.ne_of_gt hl'
  rw [closeTest_eq, closeTest_eq]
  unfold Verifier.close
  dsimp only
  rw [if_neg hdeep, if_neg hdeep', hid]
  split_ifs
  · exact .ended () g _ ⟨[], [((c.insert ⟨u.id, s.values⟩ t.sample).size : R)], 0⟩ _ _ source
  · exact .ended () g c ⟨[], [], 0⟩ _ _ source

variable [Distributions R]

/-- A test is opened with the parameters and the cache alone. -/
theorem openTest (hid : u'.id = u.id) (hnested : ∀ p, u'.nestedError p = u.nestedError p) (bound : R)
    (s : State R) :
    Alike n (· = ·) (SimCheck.openTest u' bound s : Run R (Session R G S) _)
      (SimCheck.openTest u bound s) := by
  refine verifier_bind fun v w hvw => ?_
  rw [hvw.params, hvw.cache, hid, hnested]
  refine bind (ofExcept _) fun t => ?_
  split_ifs
  · cases w.cache.get? ⟨u.id, s.values⟩ with
    | some sample => exact pure _
    | none => exact pure _
  · exact pure _

/-- **Below the outermost level thresholds are decided alike.** -/
theorem checkThreshold (sim : Simulator R G) :
    RelatesThresholds (fun _ _ => Alike 1 (· = ·)) sim sim := by
  intro S u' u hu src op bound s
  unfold SimCheck.checkThreshold
  cases Property.trivialVerdict? op bound with
  | some verdict => exact pure verdict
  | none =>
    refine nested (bind (openTest hu.id hu.nestedError_eq bound s) fun t => ?_)
    refine bind (congruence 2 sim.model).params fun p => ?_
    rw [hu.id, hu.nestedError_eq]
    have hpath := (congruence 1 sim.model).simulate hu sim.fuel s (u.nestedError p)
    have hdeeper := hpath.mono (Nat.le_succ 1)
    refine bind ((congruence 2 sim.model).completeTest hdeeper src u.id s sim.fuel t) fun t => ?_
    exact bind (closeTest hu.id s t) fun _ => pure _

end Tests

/-! ### Paths -/

/-- **Paths end alike, whatever the error bounds are**, if what they check does within given ones. -/
theorem pathCongruence (n : ℕ) (model : Model R G) :
    Run.PathCongruence (fun _ _ => Alike n Params.SameButBounds) (fun _ _ => Alike n (· = ·)) model model where
  pure := pure
  bind := bind
  outOfFuel := throw _
  params hf := verifier_bind fun v w hvw => hf v.params w.params hvw.params.maxPathLength_eq
  within := within fun _ _ hpq => hpq
  report e := report e e
  count := count
  transition := transition model
  replays := (congruence n model).toBasicCongruence

variable [Distributions R]

/-- **A path is simulated alike within whatever error bounds.** -/
theorem simulate (sim : Simulator R G) (path : PathProperty R) (s : State R) (budget : R) :
    Alike 1 Params.SameButBounds (SimCheck.simulate sim (path.checks sim) s budget)
      (SimCheck.simulate sim (path.checks sim) s budget) := by
  have hsides := (congruence 1 sim.model).checks (checkThreshold sim) path
  refine (pathCongruence 1 sim.model).simulate hsides (fun side hside s => ?_) sim.fuel s budget
  cases side with
  | pre => exact of_settled (check_settled sim (.simulating R) s (fun _ => false) [] path.pre hside)
  | post => exact of_settled (check_settled sim (.simulating R) s (fun _ => false) [] path.post hside)

end Alike

/-- **A worker's observation is the observation of a test.**  Let two verifiers have the same generator,
the same cache and the same parameters but for the error bounds.  The path that is simulated with the first,
at whatever level, and the path that a test or an estimate simulates with the second, inside the outermost
level, either halt for the same reason, or they are the same observation, leave the same generator and
cache, and enter the same path lengths, cache sizes and number of truncated paths. -/
theorem Session.samplePath_ends_as_simulate [Distributions R] {T : Type} (sim : Simulator R G)
    (path : PathProperty R) (s : State R) {v w : Verifier R G} (hgenerator : v.generator = w.generator)
    (hcache : v.cache = w.cache) (hparams : v.params.SameButBounds w.params) (hlevel : 1 ≤ w.level)
    (source : S) (source' : T) :
    let simulated := simulate sim (path.checks sim) s ((path.checks sim).nestedError w.params)
    (∃ h, samplePath sim path s ⟨v, source⟩ = .error h ∧
      (Run.locally simulated : Run R (Session R G T) Bool) ⟨w, source'⟩ = .error h) ∨
    ∃ (observation : Bool) (generator : G) (cache : SampleCache R) (t : Tally R)
      (events events' : List (Event R)),
      samplePath sim path s ⟨v, source⟩ = .ok (observation,
        ⟨{ v with generator, cache, stats := v.stats.add t, events }, source⟩) ∧
      (Run.locally simulated : Run R (Session R G T) Bool) ⟨w, source'⟩ = .ok (observation,
        ⟨{ w with generator, cache, stats := w.stats.add t, events := events' }, source'⟩) := by
  intro simulated
  have hends := Alike.simulate sim path s ((path.checks sim).nestedError w.params)
    { v with level := v.level + 1 } w ()
    ⟨hparams, hgenerator, hcache, Nat.le_add_left 1 v.level, hlevel⟩
  -- The call takes the error of nested checks from its own parameters, which is the same one.
  have hsample : samplePath sim path s ⟨v, source⟩ =
      Run.nested (Run.locally simulated) (⟨v, source⟩ : Session R G S) := by
    show Run.nested (Run.locally (simulate sim _ s ((path.checks sim).nestedError v.params))) _ = _
    rw [hparams.nestedError_eq]
  rw [hsample, Run.nested_apply, Run.locally_apply, Run.locally_apply]
  change EndAlike _ w (simulated _) (simulated _) at hends
  generalize simulated ⟨{ v with level := v.level + 1 }, ()⟩ = r at hends ⊢
  generalize simulated ⟨w, ()⟩ = r' at hends ⊢
  cases hends with
  | halted h => exact .inl ⟨h, rfl, rfl⟩
  | ended a generator cache t events events' _ =>
    exact .inr ⟨a, generator, cache, t, events, events', rfl, rfl⟩

/-! ### A path with a threshold inside it -/

namespace Lookalike

/-- A verifier inside a test, within bounds of its own. -/
def inside : Verifier Float ℕ :=
  { Twice.session.verifier with params := Twice.params.withBounds ⟨0.25, 0.5⟩, level := 1 }

/-- Both observations are positive, and both draw the transitions of the test inside. -/
theorem samplePath_ends_as_simulate_inside :
    let _ := Twice.distributions
    ∃ (cache : SampleCache Float) (t : Tally Float) (events events' : List (Event Float)),
      Session.samplePath Twice.counting Audit.path ⟨[0], 0⟩ ⟨Twice.session.verifier, ()⟩ = .ok (true,
        ⟨{ Twice.session.verifier with
            generator := 3, cache, stats := Twice.session.verifier.stats.add t, events }, ()⟩) ∧
      (Run.locally (simulate Twice.counting (Audit.path.checks Twice.counting) ⟨[0], 0⟩
          ((Audit.path.checks Twice.counting).nestedError inside.params)) :
        Run Float (Session Float ℕ Unit) Bool) ⟨inside, ()⟩ = .ok (true,
          ⟨{ inside with
              generator := 3, cache, stats := inside.stats.add t, events := events' }, ()⟩) := by
  intro _
  have hrun : (Session.samplePath Twice.counting Audit.path ⟨[0], 0⟩
      ⟨Twice.session.verifier, ()⟩).toOption.map (fun r => (r.1, r.2.verifier.generator))
        = some (true, 3) := by decide +kernel
  obtain ⟨τ, hτ, hgenerator⟩ := Run.exists_of_map_toOption
    (f := fun σ : Session Float ℕ Unit => σ.verifier.generator) hrun
  rcases Session.samplePath_ends_as_simulate Twice.counting Audit.path ⟨[0], 0⟩
    (v := Twice.session.verifier) (w := inside) rfl rfl (.withBounds Twice.params _) (Nat.le_refl 1) () () with
    ⟨h, hhalted, -⟩ | ⟨observation, generator, cache, t, events, events', hsample, hsimulate⟩
  · rw [hτ] at hhalted
    cases hhalted
  · have hends := hτ.symm.trans hsample
    cases hends
    cases hgenerator
    exact ⟨cache, t, events, events', hsample, hsimulate⟩

end Lookalike

end SimCheck
